import Mathlib.Data.Nat.Basic
import Mathlib.Tactic.Ring

namespace Netfusion.Lib.Bincode

/-- The self-describing data model between a data type and a format: the
calls that a type's serializer code makes. A tagged value is the newtype
variant of an internally tagged enum, written through the adaptor that
inserts the tag into the content. -/
inductive Value where
  | bool (b : Bool)
  | uint (width n : Nat)
  | sint (width : Nat) (n : Int)
  | f64 (bits : UInt64)
  | str (s : String)
  | bytes (bs : List UInt8)
  | none
  | some (v : Value)
  | seq (vs : List Value)
  | tuple (vs : List Value)
  | map (kvs : List (Value × Value))
  | struct (fields : List (String × Value))
  | unitVariant (index : Nat)
  | tagged (tag variant : String) (content : Value)

inductive Error where
  | unexpectedEof
  | invalidUtf8
  | unsupportedTaggedContent
  | deserializeAnyNotSupported
  | custom (msg : String)
deriving DecidableEq

def leBytes : Nat → Nat → List UInt8
  | 0, _ => []
  | w + 1, n => UInt8.ofNat n :: leBytes w (n / 256)

def ofLeBytes : List UInt8 → Nat
  | [] => 0
  | b :: bs => b.toNat + 256 * ofLeBytes bs

def withLength (bs : List UInt8) : List UInt8 := leBytes 8 bs.length ++ bs

def utf8 (s : String) : List UInt8 := s.toUTF8.data.toList

def encodeTags (tags : List (String × String)) : List UInt8 :=
  tags.flatMap (fun t => withLength (utf8 t.2))

def encodeTagEntries (tags : List (String × String)) : List UInt8 :=
  tags.flatMap (fun t => withLength (utf8 t.1) ++ withLength (utf8 t.2))

def append (a b : Except Error (List UInt8)) : Except Error (List UInt8) := do
  return (← a) ++ (← b)

mutual

/-- A struct is the concatenation of its fields: neither their names nor
their number are written. -/
def encode : Value → Except Error (List UInt8)
  | .bool b => .ok [if b then 1 else 0]
  | .uint w n => .ok (leBytes w n)
  | .sint w n => .ok (leBytes w (n % (256 ^ w : Nat)).toNat)
  | .f64 bits => .ok (leBytes 8 bits.toNat)
  | .str s => .ok (withLength (utf8 s))
  | .bytes bs => .ok (withLength bs)
  | .none => .ok [0]
  | .some v => (encode v).map (1 :: ·)
  | .seq vs => (encodeAll vs).map (leBytes 8 vs.length ++ ·)
  | .tuple vs => encodeAll vs
  | .map kvs => (encodeEntries kvs).map (leBytes 8 kvs.length ++ ·)
  | .struct fs => encodeFields fs
  | .unitVariant i => .ok (leBytes 4 i)
  | .tagged tag variant content => encodeTagged [(tag, variant)] content

/-- The tag goes in front of the fields of a struct or the entries of a map.
No other content has a place for it. -/
def encodeTagged (tags : List (String × String)) : Value → Except Error (List UInt8)
  | .map kvs => (encodeEntries kvs).map
      (leBytes 8 (tags.length + kvs.length) ++ encodeTagEntries tags ++ ·)
  | .struct fs => (encodeFields fs).map (encodeTags tags ++ ·)
  | .tagged tag variant content => encodeTagged (tags ++ [(tag, variant)]) content
  | _ => .error .unsupportedTaggedContent

def encodeAll : List Value → Except Error (List UInt8)
  | [] => .ok []
  | v :: vs => append (encode v) (encodeAll vs)

def encodeEntries : List (Value × Value) → Except Error (List UInt8)
  | [] => .ok []
  | (k, v) :: kvs => append (encode k) (append (encode v) (encodeEntries kvs))

def encodeFields : List (String × Value) → Except Error (List UInt8)
  | [] => .ok []
  | (_, v) :: fs => append (encode v) (encodeFields fs)

end

mutual

def taggable : Value → Bool
  | .some v => taggable v
  | .seq vs | .tuple vs => taggableAll vs
  | .map kvs => taggableEntries kvs
  | .struct fs => taggableFields fs
  | .tagged _ _ content => taggableContent content
  | _ => true

def taggableContent : Value → Bool
  | .map kvs => taggableEntries kvs
  | .struct fs => taggableFields fs
  | .tagged _ _ content => taggableContent content
  | _ => false

def taggableAll : List Value → Bool
  | [] => true
  | v :: vs => taggable v && taggableAll vs

def taggableEntries : List (Value × Value) → Bool
  | [] => true
  | (k, v) :: kvs => taggable k && taggable v && taggableEntries kvs

def taggableFields : List (String × Value) → Bool
  | [] => true
  | (_, v) :: fs => taggable v && taggableFields fs

end

@[simp] theorem taggable_scalar :
    (∀ b, taggable (.bool b) = true) ∧ (∀ w n, taggable (.uint w n) = true) ∧
    (∀ w n, taggable (.sint w n) = true) ∧ (∀ b, taggable (.f64 b) = true) ∧
    (∀ s, taggable (.str s) = true) ∧ (∀ bs, taggable (.bytes bs) = true) ∧
    taggable .none = true ∧ (∀ i, taggable (.unitVariant i) = true) := by
  refine ⟨?_, ?_, ?_, ?_, ?_, ?_, ?_, ?_⟩ <;> intros <;> rw [taggable] <;> simp

@[simp] theorem taggable_compound :
    (∀ v, taggable (.some v) = taggable v) ∧ (∀ vs, taggable (.seq vs) = taggableAll vs) ∧
    (∀ vs, taggable (.tuple vs) = taggableAll vs) ∧
    (∀ kvs, taggable (.map kvs) = taggableEntries kvs) ∧
    (∀ fs, taggable (.struct fs) = taggableFields fs) ∧
    (∀ tag name v, taggable (.tagged tag name v) = taggableContent v) := by
  refine ⟨?_, ?_, ?_, ?_, ?_, ?_⟩ <;> intros <;> rw [taggable]

attribute [simp] taggableAll taggableEntries taggableFields

@[simp] theorem isOk_map {α β : Type} (f : α → β) (r : Except Error α) :
    (r.map f).isOk = r.isOk := by cases r <;> rfl

@[simp] theorem isOk_append (a b : Except Error (List UInt8)) :
    (append a b).isOk = (a.isOk && b.isOk) := by cases a <;> cases b <;> rfl

mutual

theorem encode_isOk : (v : Value) → (encode v).isOk = taggable v
  | .bool _ | .uint _ _ | .sint _ _ | .f64 _ | .str _ | .bytes _ | .none | .unitVariant _ => rfl
  | .some v => by rw [encode, isOk_map, encode_isOk v, taggable]
  | .seq vs => by rw [encode, isOk_map, encodeAll_isOk vs, taggable]
  | .tuple vs => by rw [encode, encodeAll_isOk vs, taggable]
  | .map kvs => by rw [encode, isOk_map, encodeEntries_isOk kvs, taggable]
  | .struct fs => by rw [encode, encodeFields_isOk fs, taggable]
  | .tagged tag variant content => by rw [encode, encodeTagged_isOk _ content, taggable]

theorem encodeTagged_isOk (tags : List (String × String)) :
    (v : Value) → (encodeTagged tags v).isOk = taggableContent v
  | .map kvs => by rw [encodeTagged, isOk_map, encodeEntries_isOk kvs, taggableContent]
  | .struct fs => by rw [encodeTagged, isOk_map, encodeFields_isOk fs, taggableContent]
  | .tagged tag variant content => by
    rw [encodeTagged, encodeTagged_isOk _ content, taggableContent]
  | .bool _ | .uint _ _ | .sint _ _ | .f64 _ | .str _ | .bytes _ | .none | .some _ | .seq _
  | .tuple _ | .unitVariant _ => rfl

theorem encodeAll_isOk : (vs : List Value) → (encodeAll vs).isOk = taggableAll vs
  | [] => rfl
  | v :: vs => by rw [encodeAll, isOk_append, encode_isOk v, encodeAll_isOk vs, taggableAll]

theorem encodeEntries_isOk :
    (kvs : List (Value × Value)) → (encodeEntries kvs).isOk = taggableEntries kvs
  | [] => rfl
  | (k, v) :: kvs => by
    rw [encodeEntries, isOk_append, isOk_append, encode_isOk k, encode_isOk v,
      encodeEntries_isOk kvs, taggableEntries, Bool.and_assoc]

theorem encodeFields_isOk :
    (fs : List (String × Value)) → (encodeFields fs).isOk = taggableFields fs
  | [] => rfl
  | (_, v) :: fs => by
    rw [encodeFields, isOk_append, encode_isOk v, encodeFields_isOk fs, taggableFields]

end

theorem taggableAll_map {α : Type} (f : α → Value) (h : ∀ a, taggable (f a) = true)
    (xs : List α) : taggableAll (xs.map f) = true := by
  induction xs with
  | nil => rfl
  | cons a xs ih => rw [List.map_cons, taggableAll, h a, ih, Bool.and_self]

theorem taggableEntries_map {α : Type} (f : α → Value × Value)
    (h : ∀ a, taggable (f a).1 = true ∧ taggable (f a).2 = true)
    (xs : List α) : taggableEntries (xs.map f) = true := by
  induction xs with
  | nil => rfl
  | cons a xs ih =>
    rw [List.map_cons, taggableEntries, (h a).1, (h a).2, ih, Bool.and_self, Bool.and_self]

abbrev Reader (α : Type) := List UInt8 → Except Error (α × List UInt8)

def readUint (w : Nat) : Reader Nat := fun bs =>
  if bs.length < w then .error .unexpectedEof else .ok (ofLeBytes (bs.take w), bs.drop w)

def readBytes : Reader (List UInt8) := fun bs => do
  let (n, rest) ← readUint 8 bs
  if rest.length < n then .error .unexpectedEof else .ok (rest.take n, rest.drop n)

def readStr : Reader String := fun bs => do
  let (raw, rest) ← readBytes bs
  match String.fromUTF8? ⟨raw.toArray⟩ with
  | some s => .ok (s, rest)
  | none => .error .invalidUtf8

/-- A format that writes no types cannot say what the next value is, so the
visitor is never called. -/
def deserializeAny {α : Type} (_visit : Value → Except Error α) : Reader α := fun _ =>
  .error .deserializeAnyNotSupported

def deserialize {α : Type} (r : Reader α) (bs : List UInt8) : Except Error α :=
  (r bs).map (·.1)

@[simp] theorem leBytes_length (w n : Nat) : (leBytes w n).length = w := by
  induction w generalizing n with
  | zero => rfl
  | succ w ih => simp [leBytes, ih]

theorem ofLeBytes_leBytes (w n : Nat) : ofLeBytes (leBytes w n) = n % 256 ^ w := by
  induction w generalizing n with
  | zero => simp [leBytes, ofLeBytes, Nat.mod_one]
  | succ w ih =>
    rw [leBytes, ofLeBytes, ih, Nat.pow_succ, Nat.mul_comm (256 ^ w), Nat.mod_mul]
    simp

theorem readUint_leBytes (w n : Nat) (rest : List UInt8) :
    readUint w (leBytes w n ++ rest) = .ok (n % 256 ^ w, rest) := by
  have hlen : ¬ (leBytes w n ++ rest).length < w := by simp
  rw [readUint, if_neg hlen, List.take_left' (leBytes_length w n),
    List.drop_left' (leBytes_length w n), ofLeBytes_leBytes]

theorem readBytes_withLength (bs rest : List UInt8) (h : bs.length < 256 ^ 8) :
    readBytes (withLength bs ++ rest) = .ok (bs, rest) := by
  rw [readBytes, withLength, List.append_assoc, readUint_leBytes, Nat.mod_eq_of_lt h]
  simp [bind, Except.bind]

theorem readStr_withLength (s : String) (rest : List UInt8) (h : (utf8 s).length < 256 ^ 8) :
    readStr (withLength (utf8 s) ++ rest) = .ok (s, rest) := by
  have hs : String.fromUTF8? ⟨(utf8 s).toArray⟩ = some s := by
    simp only [utf8, Array.toArray_toList, String.fromUTF8?]
    exact dif_pos s.isValidUTF8
  simp [readStr, readBytes_withLength _ _ h, hs, bind, Except.bind]

end Netfusion.Lib.Bincode
