import Netfusion.Lib.Decimal
import Netfusion.Lib.Text

namespace Netfusion.Core.Ping

open Netfusion.Lib.Decimal Netfusion.Lib.Text

structure Reading where
  avgRtt : ℚ
  mdev : ℚ
  lossPercent : ℚ

/-- Only the first part that speaks of packet loss is looked at. -/
def lossOf (line : List Char) : Option ℚ :=
  match (line.splitOn ',').find? (hasInfix "packet loss") with
  | some loss =>
    match stripSuffix "% packet loss".toList (trim loss) with
    | some value => parseF64 (trim value)
    | none => none
  | none => none

def readLoss (r : Reading) (line : List Char) : Reading :=
  { r with lossPercent := (lossOf line).getD r.lossPercent }

def isStatistics (line : List Char) : Bool :=
  hasInfix "rtt min/avg/max/mdev" line || hasInfix "round-trip min/avg/max" line

/-- What cannot be read leaves the reading as it is; fewer than four parts are
not looked at. -/
def readStatistics (r : Reading) (line : List Char) : Reading :=
  if isStatistics line then
    match (line.splitOn '=')[1]? with
    | some stats =>
      match stats.splitOn '/' with
      | _ :: avg :: _ :: mdev :: _ =>
        { r with
          avgRtt := (parseF64 (trim avg)).getD r.avgRtt
          mdev := (parseF64 (trimEndMatches " ms".toList mdev)).getD r.mdev }
      | _ => r
    | none => r
  else r

def readLine (r : Reading) (line : List Char) : Reading := readStatistics (readLoss r line) line

def parsePingOutput (output : String) : Except String (ℚ × ℚ × ℚ) :=
  let r := (lines output).foldl readLine ⟨0, 0, 0⟩
  if r.avgRtt = 0 ∧ r.lossPercent < 100 then .error "could not parse RTT from ping output"
  else .ok (r.avgRtt, r.mdev, r.lossPercent)

structure LossLine where
  transmitted : Numeral
  received : Numeral
  errors : Option Numeral
  loss : Numeral
  time : Numeral

def LossLine.counts (l : LossLine) : List (List Char) :=
  (l.transmitted.text ++ " packets transmitted".toList) ::
  (" ".toList ++ l.received.text ++ " received".toList) ::
  l.errors.toList.map (fun e => " +".toList ++ e.text ++ " errors".toList)

def LossLine.parts (l : LossLine) : List (List Char) :=
  l.counts ++ [" ".toList ++ l.loss.text ++ "% packet loss".toList,
    " time ".toList ++ l.time.text ++ "ms".toList]

def LossLine.text (l : LossLine) : List Char := [','].intercalate l.parts

/-- The round-trip times of one run, with the depth of the pipe where more than
one packet was under way, or without the deviation. -/
inductive RttLine
  | rtt (min avg max mdev : Numeral) (pipe : Option Numeral)
  | roundTrip (min avg max : Numeral)

def RttLine.avg : RttLine → Numeral
  | .rtt _ avg _ _ _ => avg
  | .roundTrip _ avg _ => avg

def RttLine.heading : RttLine → String
  | .rtt .. => "rtt min/avg/max/mdev"
  | .roundTrip .. => "round-trip min/avg/max"

def pipeText (pipe : Option Numeral) : List Char :=
  pipe.elim [] (fun n => ", pipe ".toList ++ n.text)

def RttLine.fields : RttLine → List (List Char)
  | .rtt min avg max mdev pipe =>
    [" ".toList ++ min.text, avg.text, max.text, mdev.text ++ (" ms".toList ++ pipeText pipe)]
  | .roundTrip min avg max => [" ".toList ++ min.text, avg.text, max.text ++ " ms".toList]

def RttLine.text (l : RttLine) : List Char :=
  l.heading.toList ++ ' ' :: '=' :: ['/'].intercalate l.fields

def Plain (line : List Char) : Prop :=
  '\n' ∉ line ∧ hasInfix "packet loss" line = false ∧ isStatistics line = false

instance (line : List Char) : Decidable (Plain line) := inferInstanceAs (Decidable (_ ∧ _))

/-- The lines of a run of `ping`; a text that ends in a line break has an empty
line at its end. -/
structure Transcript where
  before : List (List Char)
  between : List (List Char)
  after : List (List Char)
  loss : LossLine
  rtt : RttLine
  lossFirst : Bool
  plain : ∀ line ∈ before ++ between ++ after, Plain line
  positive : 0 < rtt.avg.value

def Transcript.lines (t : Transcript) : List (List Char) :=
  if t.lossFirst then t.before ++ t.loss.text :: t.between ++ t.rtt.text :: t.after
  else t.before ++ t.rtt.text :: t.between ++ t.loss.text :: t.after

def Transcript.text (t : Transcript) : String := String.ofList (['\n'].intercalate t.lines)

/-- The numbers of the transcript are those returned. -/
def ReadBack (t : Transcript) : Prop :=
  match t.rtt with
  | .rtt _ avg _ mdev _ =>
    parsePingOutput t.text = .ok (avg.value, mdev.value, t.loss.loss.value)
  | .roundTrip _ avg _ =>
    ∃ mdev, parsePingOutput t.text = .ok (avg.value, mdev, t.loss.loss.value)

def RttLine.add : RttLine → Reading → Reading
  | .rtt _ avg _ mdev none, r => { r with avgRtt := avg.value, mdev := mdev.value }
  | .rtt _ avg _ _ (some _), r => { r with avgRtt := avg.value }
  | .roundTrip .., r => r

def countWords : String := "packets transmitted received +errors"

def lossWords : String := countWords ++ "% packet loss time ms"

/-- Every character belongs to a numeral or to the words. -/
def Written (words : String) (s : List Char) : Prop :=
  ∀ c ∈ s, c.isDigit ∨ c = '.' ∨ c ∈ words.toList

section

variable {words : String} {s s' : List Char}

theorem written_numeral (n : Numeral) : Written words n.text :=
  fun _ hc => (numeral_chars n hc).imp_right .inl

theorem written_words (h : s ⊆ words.toList) : Written words s :=
  fun _ hc => .inr (.inr (h hc))

theorem written_append (h : Written words s) (h' : Written words s') : Written words (s ++ s') := by
  intro c hc
  rcases List.mem_append.mp hc with hc | hc
  · exact h c hc
  · exact h' c hc

theorem written_around (n : Numeral) (h : s ⊆ words.toList) (h' : s' ⊆ words.toList) :
    Written words (s ++ n.text ++ s') :=
  written_append (written_append (written_words h) (written_numeral n)) (written_words h')

theorem not_mem_written (h : Written words s) {c : Char}
    (hc : ¬ (c.isDigit ∨ c = '.' ∨ c ∈ words.toList)) : c ∉ s :=
  fun hmem => hc (h c hmem)

end

theorem counts_written (l : LossLine) :
    ∀ part ∈ l.counts, Written countWords part := by
  intro part hpart
  simp only [LossLine.counts, List.mem_cons, List.mem_map, Option.mem_toList] at hpart
  rcases hpart with rfl | rfl | ⟨e, -, rfl⟩
  · exact written_append (written_numeral _) (written_words (by decide))
  · exact written_around _ (by decide) (by decide)
  · exact written_around _ (by decide) (by decide)

theorem parts_written (l : LossLine) : ∀ part ∈ l.parts, Written lossWords part := by
  intro part hpart
  simp only [LossLine.parts, List.mem_append, List.mem_cons, List.not_mem_nil, or_false] at hpart
  rcases hpart with hcount | rfl | rfl
  · intro c hc
    have hwords : countWords.toList ⊆ lossWords.toList := by decide
    exact (counts_written l part hcount c hc).imp_right (Or.imp_right (fun h => hwords h))
  · exact written_around _ (by decide) (by decide)
  · exact written_around _ (by decide) (by decide)

theorem fields_written (l : RttLine) : ∀ field ∈ l.fields, Written " ms, pipe" field := by
  intro field hfield
  cases l with
  | roundTrip min avg max =>
    simp only [RttLine.fields, List.mem_cons, List.not_mem_nil, or_false] at hfield
    rcases hfield with rfl | rfl | rfl
    · exact written_append (written_words (by decide)) (written_numeral _)
    · exact written_numeral _
    · exact written_append (written_numeral _) (written_words (by decide))
  | rtt min avg max mdev pipe =>
    have hpipe : Written " ms, pipe" (pipeText pipe) := by
      cases pipe with
      | none => exact written_words (List.nil_subset _)
      | some n => exact written_append (written_words (by decide)) (written_numeral _)
    simp only [RttLine.fields, List.mem_cons, List.not_mem_nil, or_false] at hfield
    rcases hfield with rfl | rfl | rfl | rfl
    · exact written_append (written_words (by decide)) (written_numeral _)
    · exact written_numeral _
    · exact written_numeral _
    · exact written_append (written_numeral _)
        (written_append (written_words (by decide)) hpipe)

theorem loss_not_mem (l : LossLine) {c : Char}
    (hc : ¬ (c.isDigit ∨ c = '.' ∨ c ∈ lossWords.toList)) (hcomma : c ≠ ',') : c ∉ l.text := by
  intro hmem
  rcases mem_intercalate hmem with heq | ⟨part, hpart, hmem⟩
  · exact hcomma heq
  · exact not_mem_written (parts_written l part hpart) hc hmem

theorem loss_parts (l : LossLine) : l.text.splitOn ',' = l.parts := by
  apply List.splitOn_intercalate
  · intro part hpart
    exact not_mem_written (parts_written l part hpart) (by decide)
  · simp [LossLine.parts]

theorem loss_part (l : LossLine) : l.parts.find? (hasInfix "packet loss") =
    some (" ".toList ++ l.loss.text ++ "% packet loss".toList) := by
  have hcounts : l.counts.find? (hasInfix "packet loss") = none := by
    rw [List.find?_eq_none]
    intro part hpart
    rw [not_hasInfix_of_not_mem 'l' (by decide)
      (not_mem_written (counts_written l part hpart) (by decide))]
    decide
  have hloss : hasInfix "packet loss" (" ".toList ++ l.loss.text ++ "% packet loss".toList) :=
    decide_eq_true ⟨" ".toList ++ l.loss.text ++ "% ".toList, [], by simp⟩
  rw [LossLine.parts, List.find?_append, hcounts, Option.none_or, List.find?_cons_of_pos hloss]

theorem trim_loss_part (l : LossLine) : trim (" ".toList ++ l.loss.text ++ "% packet loss".toList) =
    l.loss.text ++ "% packet loss".toList := by
  have hblank : trim (" ".toList ++ l.loss.text ++ "% packet loss".toList) =
      trim (l.loss.text ++ "% packet loss".toList) := trim_blank _
  rw [hblank]
  apply trim_of_ends
  · obtain ⟨c, s, hs⟩ := List.exists_cons_of_ne_nil (numeral_ne_nil l.loss)
    intro d hd
    rw [hs, List.cons_append, List.head?_cons, Option.mem_some_iff] at hd
    subst hd
    exact not_isWhitespace_numeral l.loss c (hs ▸ List.mem_cons_self)
  · intro d hd
    rw [List.getLast?_append_of_ne_nil _ (by decide)] at hd
    cases hd
    decide

theorem lossOf_loss (l : LossLine) : lossOf l.text = some l.loss.value := by
  rw [lossOf, loss_parts, loss_part]
  dsimp only
  rw [trim_loss_part, stripSuffix_append]
  dsimp only
  rw [trim_numeral, parseF64_numeral]

theorem readLine_loss (r : Reading) (l : LossLine) :
    readLine r l.text = { r with lossPercent := l.loss.value } := by
  have hslash : '/' ∉ l.text := loss_not_mem l (by decide) (by decide)
  rw [readLine, readStatistics, if_neg, readLoss, lossOf_loss, Option.getD_some]
  rw [isStatistics, not_hasInfix_of_not_mem '/' (by decide) hslash,
    not_hasInfix_of_not_mem '/' (by decide) hslash]
  decide

theorem lossOf_none {line : List Char} (h : hasInfix "packet loss" line = false) :
    lossOf line = none := by
  have hparts : (line.splitOn ',').find? (hasInfix "packet loss") = none := by
    rw [List.find?_eq_none]
    intro part hpart
    rw [not_hasInfix_of_part (part_of_mem_splitOn hpart) h]
    decide
  rw [lossOf, hparts]

theorem stats_not_mem (l : RttLine) {c : Char}
    (hc : ¬ (c.isDigit ∨ c = '.' ∨ c ∈ " ms, pipe".toList)) (hslash : c ≠ '/') :
    c ∉ ['/'].intercalate l.fields := by
  intro hmem
  rcases mem_intercalate hmem with heq | ⟨field, hfield, hmem⟩
  · exact hslash heq
  · exact not_mem_written (fields_written l field hfield) hc hmem

theorem heading_words (l : RttLine) :
    l.heading.toList ⊆ "rtt min/avg/max/mdev round-trip".toList := by
  cases l with
  | rtt =>
    rw [RttLine.heading]
    decide
  | roundTrip =>
    rw [RttLine.heading]
    decide

theorem rtt_not_mem (l : RttLine) {c : Char} (hc : ¬ (c.isDigit ∨ c = '.' ∨
    c ∈ " ms, pipe".toList)) (hheading : c ∉ "rtt min/avg/max/mdev round-trip =".toList) :
    c ∉ l.text := by
  intro hmem
  rw [RttLine.text] at hmem
  simp only [List.mem_append, List.mem_cons] at hmem
  rcases hmem with hmem | rfl | rfl | hmem
  · have hword := heading_words l hmem
    exact hheading ((by decide : "rtt min/avg/max/mdev round-trip".toList ⊆
      "rtt min/avg/max/mdev round-trip =".toList) hword)
  · exact hheading (by decide)
  · exact hheading (by decide)
  · exact stats_not_mem l hc (fun h => hheading (h ▸ by decide)) hmem

theorem isStatistics_rtt (l : RttLine) : isStatistics l.text = true := by
  have hheading : hasInfix l.heading l.text = true :=
    decide_eq_true (List.prefix_append _ _).isInfix
  rw [isStatistics, Bool.or_eq_true]
  cases l with
  | rtt => exact .inl hheading
  | roundTrip => exact .inr hheading

theorem rtt_parts (l : RttLine) :
    (l.text.splitOn '=')[1]? = some (['/'].intercalate l.fields) := by
  have hbefore : '=' ∉ l.heading.toList ++ [' '] := by
    have hheading : '=' ∉ l.heading.toList := fun h => absurd (heading_words l h) (by decide)
    simpa using hheading
  have htext : l.text = (l.heading.toList ++ [' ']) ++ '=' :: ['/'].intercalate l.fields := by
    rw [RttLine.text, List.append_assoc, List.singleton_append]
  rw [htext, List.splitOn_append_cons_self_of_not_mem hbefore,
    List.splitOn_eq_singleton (stats_not_mem l (by decide) (by decide))]
  rfl

theorem rtt_fields (l : RttLine) : (['/'].intercalate l.fields).splitOn '/' = l.fields := by
  apply List.splitOn_intercalate
  · exact fun field hfield => not_mem_written (fields_written l field hfield) (by decide)
  · cases l <;> simp [RttLine.fields]

theorem numeral_not_suffix (s : List Char) (n : Numeral) : ¬ " ms".toList <:+ s ++ n.text := by
  rintro ⟨before, h⟩
  have hlast := congrArg List.getLast? h
  rw [List.getLast?_append_of_ne_nil _ (by decide),
    List.getLast?_append_of_ne_nil _ (numeral_ne_nil n)] at hlast
  have hwritten : Written "" n.text := written_numeral n
  exact not_mem_written hwritten (by decide) (List.mem_of_mem_getLast? hlast.symm)

theorem parse_mdev (mdev : Numeral) :
    parseF64 (trimEndMatches " ms".toList (mdev.text ++ " ms".toList)) = some mdev.value := by
  have hsuffix : ¬ " ms".toList <:+ mdev.text := numeral_not_suffix [] mdev
  rw [trimEndMatches_append hsuffix, parseF64_numeral]

theorem parse_mdev_pipe (mdev pipe : Numeral) :
    parseF64 (trimEndMatches " ms".toList
      (mdev.text ++ (" ms".toList ++ (", pipe ".toList ++ pipe.text)))) = none := by
  have hsuffix := numeral_not_suffix (mdev.text ++ (" ms".toList ++ ", pipe ".toList)) pipe
  rw [List.append_assoc, List.append_assoc] at hsuffix
  rw [trimEndMatches_of_not_suffix hsuffix]
  exact parseF64_broken mdev ' ' _ (by decide) (by decide) (by decide)

theorem readLine_rtt (r : Reading) (l : RttLine) : readLine r l.text = l.add r := by
  have hloss : hasInfix "packet loss" l.text = false :=
    not_hasInfix_of_not_mem 'k' (by decide) (rtt_not_mem l (by decide) (by decide))
  rw [readLine, readLoss, lossOf_none hloss, Option.getD_none, readStatistics,
    if_pos (isStatistics_rtt l), rtt_parts]
  dsimp only
  rw [rtt_fields]
  cases l with
  | roundTrip min avg max => rfl
  | rtt min avg max mdev pipe =>
    rw [RttLine.fields]
    dsimp only
    rw [trim_numeral, parseF64_numeral]
    cases pipe with
    | none =>
      rw [pipeText, Option.elim_none, List.append_nil, parse_mdev]
      rfl
    | some n =>
      rw [pipeText, Option.elim_some, parse_mdev_pipe]
      rfl

theorem readLine_plain (r : Reading) {line : List Char} (h : Plain line) : readLine r line = r := by
  rw [readLine, readLoss, lossOf_none h.2.1, Option.getD_none, readStatistics, if_neg]
  rw [h.2.2]
  decide

theorem plain_of_part {line line' : List Char} (h : line <:+: line') (h' : Plain line') :
    Plain line := by
  refine ⟨fun hmem => h'.1 (h.subset hmem), not_hasInfix_of_part h h'.2.1, ?_⟩
  obtain ⟨hrtt, hround⟩ := Bool.or_eq_false_iff.mp h'.2.2
  rw [isStatistics, not_hasInfix_of_part h hrtt, not_hasInfix_of_part h hround]
  decide

theorem foldl_plain (r : Reading) {block : List (List Char)} (h : ∀ line ∈ block, Plain line) :
    block.foldl readLine r = r := by
  induction block generalizing r with
  | nil => rfl
  | cons line block ih =>
    rw [List.foldl_cons, readLine_plain r (h line List.mem_cons_self)]
    exact ih r (fun line hline => h line (List.mem_cons_of_mem _ hline))

theorem mem_lines (t : Transcript) {line : List Char} (h : line ∈ t.lines) :
    line = t.loss.text ∨ line = t.rtt.text ∨ Plain line := by
  have hplain := t.plain line
  simp only [Transcript.lines] at h
  split at h
  all_goals
    simp only [List.mem_append, List.mem_cons] at h hplain
    tauto

theorem lines_kept (t : Transcript) (r : Reading) {line : List Char} (h : line ∈ t.lines) :
    readLine r (dropCarriageReturn line) = readLine r line := by
  rcases mem_lines t h with rfl | rfl | hplain
  · rw [dropCarriageReturn_of_not_mem (loss_not_mem _ (by decide) (by decide))]
  · rw [dropCarriageReturn_of_not_mem (rtt_not_mem _ (by decide) (by decide))]
  · rw [readLine_plain r hplain,
      readLine_plain r (plain_of_part (dropCarriageReturn_part line) hplain)]

theorem text_lines (t : Transcript) : t.text.toList.splitOn '\n' = t.lines := by
  rw [Transcript.text, String.toList_ofList]
  apply List.splitOn_intercalate
  · intro line hline
    rcases mem_lines t hline with rfl | rfl | hplain
    · exact loss_not_mem _ (by decide) (by decide)
    · exact rtt_not_mem _ (by decide) (by decide)
    · exact hplain.1
  · rw [Transcript.lines]
    split <;> simp

theorem add_lossPercent (l : RttLine) (r : Reading) (loss : ℚ) :
    l.add { r with lossPercent := loss } = { l.add r with lossPercent := loss } := by
  cases l with
  | roundTrip => rfl
  | rtt min avg max mdev pipe => cases pipe <;> rfl

theorem foldl_transcript (t : Transcript) (r : Reading) :
    (lines t.text).foldl readLine r = { t.rtt.add r with lossPercent := t.loss.loss.value } := by
  have hbefore : ∀ line ∈ t.before, Plain line := fun line h => t.plain line (by simp [h])
  have hbetween : ∀ line ∈ t.between, Plain line := fun line h => t.plain line (by simp [h])
  have hafter : ∀ line ∈ t.after, Plain line := fun line h => t.plain line (by simp [h])
  rw [foldl_lines readLine r (text_lines t) (fun r line h => lines_kept t r h)
    (fun r => readLine_plain r (by decide)), Transcript.lines]
  split
  · rw [List.foldl_append, List.foldl_append, List.foldl_cons, List.foldl_cons,
      foldl_plain r hbefore, readLine_loss, foldl_plain _ hbetween, readLine_rtt,
      foldl_plain _ hafter, add_lossPercent]
  · rw [List.foldl_append, List.foldl_append, List.foldl_cons, List.foldl_cons,
      foldl_plain r hbefore, readLine_rtt, foldl_plain _ hbetween, readLine_loss,
      foldl_plain _ hafter]

/-- A number that cannot be read counts as zero, so the deviation is lost
where the depth of the pipe follows, and without the deviation nothing is
read. -/
theorem readBack_iff (t : Transcript) : ReadBack t ↔
    match t.rtt with
    | .rtt _ _ _ mdev pipe => pipe = none ∨ mdev.value = 0
    | .roundTrip .. => False := by
  have hpos : t.rtt.avg.value ≠ 0 := t.positive.ne'
  have hread := foldl_transcript t ⟨0, 0, 0⟩
  rw [ReadBack, parsePingOutput]
  cases hrtt : t.rtt with
  | roundTrip min avg max =>
    rw [hrtt] at hpos hread
    have hnone : (lines t.text).foldl readLine ⟨0, 0, 0⟩ = ⟨0, 0, t.loss.loss.value⟩ := hread
    rw [hnone]
    dsimp only
    rw [iff_false]
    rintro ⟨mdev, h⟩
    split at h
    · cases h
    · exact hpos (congrArg Prod.fst (Except.ok.inj h)).symm
  | rtt min avg max mdev pipe =>
    rw [hrtt] at hpos hread
    have havg : ∀ loss : ℚ, ¬ (avg.value = 0 ∧ loss < 100) := fun _ h => hpos h.1
    cases pipe with
    | none =>
      have hall : (lines t.text).foldl readLine ⟨0, 0, 0⟩ =
        ⟨avg.value, mdev.value, t.loss.loss.value⟩ := hread
      rw [hall]
      dsimp only
      rw [if_neg (havg _)]
      simp
    | some n =>
      have hlost : (lines t.text).foldl readLine ⟨0, 0, 0⟩ =
        ⟨avg.value, 0, t.loss.loss.value⟩ := hread
      rw [hlost]
      dsimp only
      rw [if_neg (havg _)]
      simp [eq_comm]

def numeral (d : Fin 10) (whole fraction : List (Fin 10)) : Numeral :=
  ⟨d :: whole, fraction, List.cons_ne_nil _ _⟩

def fourReplies : LossLine where
  transmitted := numeral 4 [] []
  received := numeral 4 [] []
  errors := none
  loss := numeral 0 [] []
  time := numeral 6 [0, 2] []

/-- Replies that take longer than the interval between the requests. -/
def slowLink : Transcript where
  before := ["--- 8.8.8.8 ping statistics ---".toList]
  between := []
  after := [[]]
  loss := fourReplies
  rtt := .rtt (numeral 4 [1, 2] [1]) (numeral 4 [5, 2] [6]) (numeral 4 [8, 0] [3])
    (numeral 2 [1] [5]) (some (numeral 3 [] []))
  lossFirst := true
  plain := by decide
  positive := by decide +kernel

example : slowLink.text = "--- 8.8.8.8 ping statistics ---
4 packets transmitted, 4 received, 0% packet loss, time 602ms
rtt min/avg/max/mdev = 412.1/452.6/480.3/21.5 ms, pipe 3
" := by decide +kernel

/-- The same link as another `ping` reports it. -/
def threeFields : Transcript :=
  { slowLink with
    rtt := .roundTrip (numeral 4 [1, 2] [1]) (numeral 4 [5, 2] [6]) (numeral 4 [8, 0] [3])
    positive := by decide +kernel }

theorem not_read_back : ¬ ReadBack slowLink ∧ ¬ ReadBack threeFields := by
  have hpipe : parsePingOutput slowLink.text = .ok (452.6, 0, 0) := by
    rw [parsePingOutput, foldl_transcript]
    decide +kernel
  have hthree : parsePingOutput threeFields.text =
      .error "could not parse RTT from ping output" := by
    rw [parsePingOutput, foldl_transcript]
    decide +kernel
  constructor
  · intro h
    have hdeviation := hpipe.symm.trans h
    exact absurd hdeviation (by decide +kernel)
  · rintro ⟨mdev, h⟩
    exact absurd (hthree.symm.trans h) (fun herror => by cases herror)

end Netfusion.Core.Ping
