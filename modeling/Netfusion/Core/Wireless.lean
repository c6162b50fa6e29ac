import Netfusion.Lib.Columns
import Netfusion.Core.Command
import Netfusion.Core.Discovery

namespace Netfusion.Core.Wireless

open Netfusion.Lib.Columns Netfusion.Lib.Text
open Netfusion.Shared.Types
open Netfusion.Core.Command Netfusion.Core.Discovery

def parseI8 : List Char → Option Int8
  | '-' :: digits =>
    if digits ≠ [] ∧ digits.all Char.isDigit ∧ digitsValue digits ≤ 128 then
      some (Int8.ofInt (-digitsValue digits))
    else none
  | s => (parseUint 128 s).map (fun n => Int8.ofNat n)

section

variable {F : Type}

def WirelessInfo.default : WirelessInfo F := ⟨none, none, none, none, none, none, none, none⟩

def isWirelessInterface (name : String) : Bool :=
  ["wl", "wifi", "ra", "ath", "wlp", "wlan"].any (startsWith name)

def readSsid (wireless : WirelessInfo F) (trimmed : List Char) : WirelessInfo F :=
  match stripPrefix "ssid " trimmed with
  | some value =>
    if trim value = [] then wireless
    else { wireless with ssid := some (String.ofList (trim value)) }
  | none => wireless

def readChannel (wireless : WirelessInfo F) (trimmed : List Char) : WirelessInfo F :=
  match (stripPrefix "channel " trimmed).bind (fun info => (splitWhitespace info).head?) with
  | some freq =>
    match parseUint (2 ^ 32) freq with
    | some freq => { wireless with frequencyMhz := some (UInt32.ofNat freq) }
    | none => wireless
  | none => wireless

def readSignal (wireless : WirelessInfo F) (trimmed : List Char) : WirelessInfo F :=
  match stripPrefix "signal: " trimmed with
  | some signal =>
    match parseI8 (trimEndMatches " dBm".toList signal) with
    | some signal => { wireless with signalDbm := some signal }
    | none => wireless
  | none => wireless

def readIwLine (wireless : WirelessInfo F) (line : List Char) : WirelessInfo F :=
  let trimmed := trim line
  readSignal (readChannel (readSsid wireless trimmed) trimmed) trimmed

def collectCfg80211Data (iw : CommandOutput) (wireless : Option (WirelessInfo F)) :
    Option (WirelessInfo F) :=
  match iw with
  | .ok output => some ((lines output.stdout).foldl readIwLine (wireless.getD WirelessInfo.default))
  | .error _ => wireless

def readLegacyLine (wireless : Option (WirelessInfo F)) (line : List Char) :
    Option (WirelessInfo F) :=
  match splitWhitespace line with
  | label :: level :: _ =>
    if label = "Signal.level".toList then
      match parseI8 level with
      | some level => some { wireless.getD WirelessInfo.default with signalDbm := some level }
      | none => wireless
    else if label = "Noise.level".toList then
      match parseI8 level with
      | some level => some { wireless.getD WirelessInfo.default with noiseDbm := some level }
      | none => wireless
    else wireless
  | _ => wireless

/-- What the system has on a wireless interface: its directory of the modern
interface, what iw shows of it, and its file of the legacy statistics. -/
structure WirelessSources where
  phy80211 : Bool
  iw : CommandOutput
  wireless : Option String

def wirelessData (sources : WirelessSources) (name : String) (wireless : Option (WirelessInfo F)) :
    Option (WirelessInfo F) :=
  if !isWirelessInterface name then wireless
  else if sources.phy80211 then collectCfg80211Data sources.iw wireless
  else
    match sources.wireless with
    | some content => (lines content).foldl readLegacyLine wireless
    | none => wireless

def collectWirelessData (sources : WirelessSources) (interface : InterfaceInfo F) :
    InterfaceInfo F :=
  { interface with wireless := wirelessData sources interface.name interface.wireless }

end

inductive IwLine where
  | ssid (text : List Char)
  | channel (number frequency : UInt32) (rest : List Char)
  | other (text : List Char)
deriving DecidableEq

namespace IwLine

def text : IwLine → List Char
  | .ssid text => '\t' :: ("ssid ".toList ++ text)
  | .channel number frequency rest =>
    '\t' :: ("channel ".toList ++ (Nat.toDigits 10 number.toNat ++ ' ' ::
      ('(' :: (Nat.toDigits 10 frequency.toNat ++ (" MHz)".toList ++ rest)))))
  | .other text => text

/-- The name of the network that the line shows. A blank one is not read. -/
def network : IwLine → Option String
  | .ssid text => if trim text = [] then none else some (String.ofList (trim text))
  | _ => none

def channelNumber : IwLine → Option UInt32
  | .channel number _ _ => some number
  | _ => none

def labels : List String := ["ssid ", "channel ", "signal: "]

def Plain : IwLine → Prop
  | .other text => ∀ label ∈ labels, ¬ label.toList <+: trim text
  | _ => True

instance : DecidablePred Plain
  | .other text =>
    inferInstanceAs (Decidable (∀ label ∈ labels, ¬ label.toList <+: trim text))
  | .ssid _ => .isTrue trivial
  | .channel _ _ _ => .isTrue trivial

end IwLine

structure IwReport where
  shown : List IwLine
  plain : ∀ line ∈ shown, line.Plain
  unbroken : ∀ line ∈ shown, '\n' ∉ line.text ∧ '\r' ∉ line.text

def IwReport.text (report : IwReport) : String := linesText (report.shown.map IwLine.text)

section

variable {F : Type}

theorem readIwLine_ssid (wireless : WirelessInfo F) (text : List Char) :
    readIwLine wireless (IwLine.ssid text).text =
      { wireless with ssid := ((IwLine.ssid text).network).or wireless.ssid } := by
  have hsolid : ∀ s : List Char, trim ('\t' :: ("ssid".toList ++ s)) =
      trimEnd ("ssid".toList ++ s) :=
    fun s => (trim_blank_cons rfl _).trans (trim_solid_cons rfl _)
  have hblank : "ssid ".toList = "ssid".toList ++ [' '] := by decide
  by_cases htext : trim text = []
  · have htrimmed : trim (IwLine.ssid text).text = "ssid".toList := by
      have hend : trimEnd ([' '] ++ text) = [] := by
        rw [trimEnd_append_blank (trimEnd_eq_nil_iff.mpr htext)]
        rfl
      rw [IwLine.text, hblank, List.append_assoc, hsolid, trimEnd_append_blank hend]
      decide
    have hnetwork : (IwLine.ssid text).network = none := if_pos htext
    have hssid : stripPrefix "ssid " "ssid".toList = none := by decide
    have hchannel : stripPrefix "channel " "ssid".toList = none := by decide
    have hsignal : stripPrefix "signal: " "ssid".toList = none := by decide
    rw [readIwLine, htrimmed, hnetwork, readSsid, hssid, readChannel, hchannel]
    dsimp only [Option.bind_none]
    rw [readSignal, hsignal, Option.none_or]
  · have hend : trimEnd text ≠ [] := fun h => htext (trimEnd_eq_nil_iff.mp h)
    have htrimmed : trim (IwLine.ssid text).text = "ssid ".toList ++ trimEnd text := by
      rw [IwLine.text, hblank, List.append_assoc, hsolid, ← List.append_assoc, ← hblank,
        trimEnd_append hend]
    have hnetwork : (IwLine.ssid text).network = some (String.ofList (trim text)) := if_neg htext
    have hchannel : stripPrefix "channel " ("ssid ".toList ++ trimEnd text) = none :=
      stripPrefix_other (by decide) (by decide) _
    have hsignal : stripPrefix "signal: " ("ssid ".toList ++ trimEnd text) = none :=
      stripPrefix_other (by decide) (by decide) _
    rw [readIwLine, htrimmed, hnetwork, readSsid, stripPrefix_append]
    dsimp only
    rw [trim_trimEnd, if_neg htext, readChannel, hchannel]
    dsimp only [Option.bind_none]
    rw [readSignal, hsignal, Option.some_or]

theorem readIwLine_channel (wireless : WirelessInfo F) (number frequency : UInt32)
    (rest : List Char) :
    readIwLine wireless (IwLine.channel number frequency rest).text =
      { wireless with frequencyMhz := some number } := by
  have hend : trimEnd ('(' :: (Nat.toDigits 10 frequency.toNat ++
      (" MHz)".toList ++ rest))) ≠ [] := by
    intro hnil
    rw [trimEnd, List.rdropWhile_eq_nil_iff] at hnil
    exact absurd (hnil '(' List.mem_cons_self) (by decide)
  obtain ⟨tail, htail⟩ : ∃ tail, trimEnd ('(' :: (Nat.toDigits 10 frequency.toNat ++
    (" MHz)".toList ++ rest))) = tail := ⟨_, rfl⟩
  have htrimmed : trim (IwLine.channel number frequency rest).text =
      "channel ".toList ++ (Nat.toDigits 10 number.toNat ++ ' ' :: tail) := by
    have hfront : ∀ s : List Char, "channel ".toList ++ (Nat.toDigits 10 number.toNat ++ ' ' :: s) =
        ("channel ".toList ++ Nat.toDigits 10 number.toNat ++ [' ']) ++ s := by simp
    have hsolid : ∀ s : List Char, trim ('\t' :: ("channel ".toList ++ s)) =
        trimEnd ("channel ".toList ++ s) :=
      fun s => (trim_blank_cons rfl _).trans (trim_solid_cons rfl _)
    rw [IwLine.text, hsolid, hfront, trimEnd_append hend, htail, ← hfront]
  have hssid : stripPrefix "ssid " ("channel ".toList ++ (Nat.toDigits 10 number.toNat ++
      ' ' :: tail)) = none := stripPrefix_other (by decide) (by decide) _
  have hsignal : stripPrefix "signal: " ("channel ".toList ++ (Nat.toDigits 10 number.toNat ++
      ' ' :: tail)) = none := stripPrefix_other (by decide) (by decide) _
  have hnumber : (splitWhitespace (Nat.toDigits 10 number.toNat ++ ' ' :: tail)).head? =
      some (Nat.toDigits 10 number.toNat) := by
    rw [splitWhitespace_solid_cons (solid_toDigits _) rfl, List.head?_cons]
  rw [readIwLine, htrimmed, readSsid, hssid, readChannel, stripPrefix_append]
  dsimp only [Option.bind_some]
  rw [hnumber]
  dsimp only
  rw [parseUint_toDigits number.toNat_lt]
  dsimp only
  rw [readSignal, hsignal, UInt32.ofNat_toNat]

theorem readIwLine_other (wireless : WirelessInfo F) {text : List Char}
    (h : (IwLine.other text).Plain) : readIwLine wireless (IwLine.other text).text = wireless := by
  have hlabel : ∀ label ∈ IwLine.labels, stripPrefix label (trim text) = none :=
    fun label hmem => if_neg (h label hmem)
  rw [readIwLine, IwLine.text, readSsid, hlabel "ssid " (by decide), readChannel,
    hlabel "channel " (by decide)]
  dsimp only [Option.bind_none]
  rw [readSignal, hlabel "signal: " (by decide)]

theorem foldl_readIwLine (wireless : WirelessInfo F) (shown : List IwLine)
    (hplain : ∀ line ∈ shown, line.Plain) :
    (shown.map IwLine.text).foldl readIwLine wireless =
      { wireless with
        ssid := (shown.filterMap IwLine.network).getLast?.or wireless.ssid
        frequencyMhz :=
          (shown.filterMap IwLine.channelNumber).getLast?.or wireless.frequencyMhz } := by
  induction shown using List.reverseRecOn with
  | nil => rfl
  | append_singleton shown line ih =>
    have hline := hplain line (List.mem_append_right _ (List.mem_singleton_self line))
    rw [List.map_append, List.foldl_append, ih (fun l hl => hplain l (List.mem_append_left _ hl)),
      List.map_singleton, List.foldl_cons, List.foldl_nil, List.filterMap_append,
      List.filterMap_append, List.getLast?_append, List.getLast?_append]
    cases line with
    | ssid text =>
      rw [readIwLine_ssid]
      cases hnetwork : (IwLine.ssid text).network with
      | none => simp [List.filterMap_cons, hnetwork, IwLine.channelNumber]
      | some network => simp [List.filterMap_cons, hnetwork, IwLine.channelNumber]
    | channel number frequency rest =>
      rw [readIwLine_channel]
      simp [List.filterMap_cons, IwLine.network, IwLine.channelNumber]
    | other text =>
      rw [readIwLine_other _ hline]
      simp [List.filterMap_cons, IwLine.network, IwLine.channelNumber]

/-- The last network and the last channel that iw shows are read, and nothing else. -/
theorem collectCfg80211Data_text (report : IwReport) (success : Bool) (stderr : String) :
    collectCfg80211Data (F := F) (exited success report.text stderr) none =
      some { WirelessInfo.default with
        ssid := (report.shown.filterMap IwLine.network).getLast?
        frequencyMhz := (report.shown.filterMap IwLine.channelNumber).getLast? } := by
  have hunbroken : ∀ row ∈ report.shown.map IwLine.text, '\n' ∉ row ∧ '\r' ∉ row := by
    intro row hrow
    obtain ⟨line, hline, rfl⟩ := List.mem_map.mp hrow
    exact report.unbroken line hline
  rw [exited, collectCfg80211Data]
  dsimp only
  rw [IwReport.text, lines_linesText _ hunbroken, foldl_readIwLine _ _ report.plain]
  simp [WirelessInfo.default]

theorem readSsid_eq (wireless : WirelessInfo F) (trimmed : List Char) :
    ∃ ssid, readSsid wireless trimmed = { wireless with ssid := ssid } := by
  rw [readSsid]
  split
  · split
    · exact ⟨_, rfl⟩
    · exact ⟨_, rfl⟩
  · exact ⟨_, rfl⟩

theorem readChannel_eq (wireless : WirelessInfo F) (trimmed : List Char) :
    ∃ frequency, readChannel wireless trimmed = { wireless with frequencyMhz := frequency } := by
  rw [readChannel]
  split
  · split
    · exact ⟨_, rfl⟩
    · exact ⟨_, rfl⟩
  · exact ⟨_, rfl⟩

theorem readSignal_eq (wireless : WirelessInfo F) (trimmed : List Char) :
    ∃ signal, readSignal wireless trimmed = { wireless with signalDbm := signal } := by
  rw [readSignal]
  split
  · split
    · exact ⟨_, rfl⟩
    · exact ⟨_, rfl⟩
  · exact ⟨_, rfl⟩

theorem readIwLine_eq (wireless : WirelessInfo F) (line : List Char) :
    ∃ ssid frequency signal, readIwLine wireless line =
      { wireless with ssid := ssid, frequencyMhz := frequency, signalDbm := signal } := by
  obtain ⟨ssid, hssid⟩ := readSsid_eq wireless (trim line)
  obtain ⟨frequency, hfrequency⟩ := readChannel_eq { wireless with ssid := ssid } (trim line)
  obtain ⟨signal, hsignal⟩ := readSignal_eq
    { wireless with ssid := ssid, frequencyMhz := frequency } (trim line)
  refine ⟨ssid, frequency, signal, ?_⟩
  rw [readIwLine, hssid, hfrequency, hsignal]

/-- Whatever text iw prints, only these fields are read from it. -/
def FromIw (wireless : WirelessInfo F) : Prop :=
  ∃ ssid frequency signal, wireless =
    { WirelessInfo.default with ssid := ssid, frequencyMhz := frequency, signalDbm := signal }

def FromLegacy (wireless : WirelessInfo F) : Prop :=
  ∃ signal noise, wireless =
    { WirelessInfo.default with signalDbm := signal, noiseDbm := noise }

theorem fromIw_readIwLine {wireless : WirelessInfo F} (h : FromIw wireless) (line : List Char) :
    FromIw (readIwLine wireless line) := by
  obtain ⟨ssid, frequency, signal, rfl⟩ := h
  obtain ⟨ssid', frequency', signal', hline⟩ := readIwLine_eq
    { WirelessInfo.default (F := F) with
      ssid := ssid, frequencyMhz := frequency, signalDbm := signal } line
  exact ⟨ssid', frequency', signal', hline⟩

theorem fromLegacy_readLegacyLine {wireless : Option (WirelessInfo F)}
    (h : ∀ w ∈ wireless, FromLegacy w) (line : List Char) :
    ∀ w ∈ readLegacyLine wireless line, FromLegacy w := by
  obtain ⟨signal, noise, hget⟩ : FromLegacy (wireless.getD WirelessInfo.default) := by
    cases wireless with
    | none => exact ⟨none, none, rfl⟩
    | some w => exact h w rfl
  rw [readLegacyLine, hget]
  split
  · split
    · split
      · rintro w ⟨⟩
        exact ⟨_, noise, rfl⟩
      · exact h
    · split
      · split
        · rintro w ⟨⟩
          exact ⟨signal, _, rfl⟩
        · exact h
      · exact h
  · exact h

theorem wirelessData_none (sources : WirelessSources) (name : String) :
    ∀ w ∈ wirelessData (F := F) sources name none, isWirelessInterface name = true ∧
      if sources.phy80211 = true then FromIw w else FromLegacy w := by
  intro w hw
  cases hname : isWirelessInterface name with
  | false =>
    rw [wirelessData, hname] at hw
    cases hw
  | true =>
    refine ⟨rfl, ?_⟩
    rw [wirelessData, hname] at hw
    cases hphy : sources.phy80211 with
    | true =>
      rw [if_pos rfl]
      rw [hphy] at hw
      cases hiw : sources.iw with
      | error e =>
        rw [hiw] at hw
        cases hw
      | ok output =>
        rw [hiw] at hw
        cases hw
        refine List.foldlRecOn (motive := FromIw) _ _ ⟨none, none, none, rfl⟩ ?_
        exact fun wireless h line _ => fromIw_readIwLine h line
    | false =>
      rw [if_neg (by decide)]
      rw [hphy] at hw
      cases hcontent : sources.wireless with
      | none =>
        rw [hcontent] at hw
        cases hw
      | some content =>
        rw [hcontent] at hw
        have hfold : ∀ w ∈ (lines content).foldl readLegacyLine (none : Option (WirelessInfo F)),
            FromLegacy w := by
          refine List.foldlRecOn (motive := fun o => ∀ w ∈ o, FromLegacy w) _ _ (by simp) ?_
          exact fun wireless h line _ => fromLegacy_readLegacyLine h line
        exact hfold w hw

/-- The wireless data of a scan are what the sources of each interface say. -/
def ReadFrom (sources : String → WirelessSources) (answers : Answers F) : Prop :=
  ∀ name, (answers.metadata name).wireless = wirelessData (sources name) name none

theorem collectWirelessData_after (sources : WirelessSources) (modes : List LinkMode)
    (driver : Option String) (interface : InterfaceInfo F) (h : interface.wireless = none) :
    collectWirelessData sources (collectDetailedMetadata ⟨modes, driver, none⟩ interface) =
      collectDetailedMetadata ⟨modes, driver, wirelessData sources interface.name none⟩
        interface := by
  obtain ⟨speed, duplex, hmodes⟩ := foldl_readLinkMode modes interface
  rw [collectWirelessData, collectDetailedMetadata, collectDetailedMetadata, hmodes]
  simp [h]

theorem scanned_wireless {sources : String → WirelessSources} {answers : Answers F}
    (hread : ReadFrom sources answers) {found : List (InterfaceInfo F)}
    (hscan : scan answers = .ok found) : ∀ interface ∈ found,
      interface.wireless = wirelessData (sources interface.name) interface.name none := by
  obtain ⟨links, addresses, routes, -, -, -, rfl⟩ := scan_ok hscan
  intro interface hinterface
  obtain ⟨link, -, rfl⟩ := List.mem_map.mp hinterface
  obtain ⟨speed, duplex, hfields⟩ := collectDetailedMetadata_eq (answers.metadata link.name) _
  rw [describe, hfields]
  dsimp only
  rw [hread, Option.or_none]

/-- Only what is named like a wireless interface is reported with wireless data.
Of the report of iw the last network is read and, for the frequency in MHz, the
number of the last channel; the frequency that stands behind it is not. -/
theorem wireless_scanned {sources : String → WirelessSources} {answers : Answers F}
    (hread : ReadFrom sources answers) {found : List (InterfaceInfo F)}
    (hscan : scan answers = .ok found) : ∀ interface ∈ found,
      (∀ w, interface.wireless = some w → isWirelessInterface interface.name = true ∧
        if (sources interface.name).phy80211 = true then FromIw w else FromLegacy w) ∧
      (isWirelessInterface interface.name = true → (sources interface.name).phy80211 = true →
        ∀ (report : IwReport) (success : Bool) (stderr : String),
          (sources interface.name).iw = exited success report.text stderr →
          interface.wireless = some { WirelessInfo.default with
            ssid := (report.shown.filterMap IwLine.network).getLast?
            frequencyMhz := (report.shown.filterMap IwLine.channelNumber).getLast? }) := by
  intro interface hinterface
  rw [scanned_wireless hread hscan interface hinterface]
  refine ⟨wirelessData_none _ _, ?_⟩
  intro hname hphy report success stderr hiw
  rw [wirelessData, hname, hphy, hiw]
  exact collectCfg80211Data_text report success stderr

end

def stationReport : IwReport where
  shown := [.other "Interface wlan0".toList, .other "\tifindex 3".toList, .ssid "Office 2".toList,
    .other "\ttype managed".toList, .channel 36 5180 ", width: 80 MHz".toList]
  plain := by decide +kernel
  unbroken := by decide +kernel

def stationSources (_ : String) : WirelessSources :=
  ⟨true, exited true stationReport.text "", none⟩

def stationScan : Answers ℚ where
  links := .ok [⟨3, "wlan0", none, 1500, .up, none⟩, ⟨2, "eth0", none, 1500, .up, none⟩]
  addresses := .ok []
  routes := []
  stats := ∅
  metadata := fun name => ⟨[], none, wirelessData (stationSources name) name none⟩

theorem wireless_scanned_station : ∃ found, scan stationScan = .ok found ∧
    found.map (fun i => (i.name, i.wireless.bind (fun w => w.frequencyMhz))) =
      [("wlan0", some 36), ("eth0", none)] ∧
    ∀ interface ∈ found, isWirelessInterface interface.name = true →
      interface.wireless = some { WirelessInfo.default with
        ssid := (stationReport.shown.filterMap IwLine.network).getLast?
        frequencyMhz := (stationReport.shown.filterMap IwLine.channelNumber).getLast? } := by
  have hread : ReadFrom stationSources stationScan := fun _ => rfl
  refine ⟨_, rfl, ?_, ?_⟩
  · decide +kernel
  · intro interface hinterface hname
    exact (wireless_scanned hread rfl interface hinterface).2 hname rfl stationReport true "" rfl

end Netfusion.Core.Wireless
