import LayerCode.Cbor.Item
import LayerCode.Text.Utf8

/-!
# Reading items into fields

Each reader takes an item for a field of one type. Tags in front of a value are dropped, after the
content of the tags with a meaning was checked; `null` and `undefined` stand for the zero value of
every type, and a text has to be valid UTF-8 before its type is looked at. Only in the keys of a map
they stand for the key before. A map is read into a record entry by entry, so the first problem in
the order of the document is the fault.

* `checkTags`: the tags in front of an item have contents of the right type;
* `Value`, `Item.value`: an item without its tags;
* `readInt`, `readByte`, `readBool`, `readText`, `readBytes`, `readArray`, `readMap`;
* `FieldReader`, `readRecord`: a map read into a record, by the tags of its fields.
-/

namespace LayerCode.Cbor

open Text

/-- The item may be the content of a tag: times are text or numbers, and big numbers are byte
strings. -/
def tagAccepts (number : Nat) (content : Item) : Bool :=
  match number, content with
  | 0, .text _ => true
  | 0, _ => false
  | 1, .unsigned _ => true
  | 1, .negative _ => true
  | 1, .float _ => true
  | 1, _ => false
  | 2, .bytes _ => true
  | 2, _ => false
  | 3, .bytes _ => true
  | 3, _ => false
  | _, _ => true

/-- The tags in front of an item have contents of the right type. -/
def checkTags : Item → Except Fault Unit
  | .tag number content => if tagAccepts number content then checkTags content else .error .tag
  | _ => .ok ()

/-- An item without the tags in front of it: a text is put together from its chunks, a big number
is kept as the bytes of its absolute value, all else is an item that is no tag. -/
inductive Value where
  | plain (item : Item)
  | text (s : String)
  | bigUnsigned (content : List UInt8)
  | bigNegative (content : List UInt8)

/-- The text of chunks that are each valid UTF-8. -/
def chunksText (chunks : List (List UInt8)) : Except Fault String :=
  match chunks.mapM ofUtf8? with
  | some texts => .ok (String.join texts)
  | none => .error .utf8

/-- The item without its tags, whose contents are checked. -/
def Item.value : Item → Except Fault Value
  | .tag number content =>
    if tagAccepts number content then
      match number, content with
      | 2, .bytes b => .ok (.bigUnsigned b)
      | 3, .bytes b => .ok (.bigNegative b)
      | _, _ => content.value
    else .error .tag
  | .text chunks => .text <$> chunksText chunks
  | item => .ok (.plain item)

/-- The item stands for a zero value. -/
def Value.isNull : Value → Bool
  | .plain .null => true
  | .plain .undefined => true
  | _ => false

/-! ## Numbers, switches, texts -/

/-- The whole number that a value denotes. -/
def Value.number? : Value → Option Int
  | .plain (.unsigned n) => some n
  | .plain (.negative n) => some (-1 - n)
  | .plain (.simple n) => some n
  | .plain .null => some 0
  | .plain .undefined => some 0
  | .bigUnsigned b => some (b.foldl (fun n d => n * 256 + d.toNat) 0 : Nat)
  | .bigNegative b => some (-1 - (b.foldl (fun n d => n * 256 + d.toNat) 0 : Nat))
  | _ => none

/-- A whole number between two bounds. -/
def readNumber (low high : Int) (item : Item) : Except Fault Int := do
  match (← item.value).number? with
  | some n => if low ≤ n ∧ n ≤ high then pure n else .error .mismatch
  | none => .error .mismatch

/-- A whole number of 64 bits. -/
def readInt (item : Item) : Except Fault Int64 := do
  pure (Int64.ofInt (← readNumber (-0x8000000000000000) 0x7fffffffffffffff item))

/-- A number of one byte. -/
def readByte (item : Item) : Except Fault UInt8 := do
  pure (UInt8.ofNat (← readNumber 0 255 item).toNat)

/-- A switch. -/
def readBool (item : Item) : Except Fault Bool := do
  match ← item.value with
  | .plain (.bool b) => pure b
  | v => if v.isNull then pure false else .error .mismatch

/-- A text, where another text stands for the zero value. -/
def readTextOr (zero : String) (item : Item) : Except Fault String := do
  match ← item.value with
  | .text s => pure s
  | v => if v.isNull then pure zero else .error .mismatch

/-- A text. -/
def readText (item : Item) : Except Fault String := readTextOr "" item

/-- Bytes: a byte string, the content of a big number, or an array of bytes. -/
def readBytes (item : Item) : Except Fault (List UInt8) := do
  match ← item.value with
  | .plain (.bytes b) => pure b
  | .bigUnsigned b => pure b
  | .bigNegative b => pure b
  | .plain (.array items) => items.mapM readByte
  | v => if v.isNull then pure [] else .error .mismatch

/-! ## Arrays, maps and records -/

section Containers

variable {ε : Type} (lift : Fault → ε)

/-- A fault of an item as a fault of a larger reading. -/
def lifting {α : Type} (r : Except Fault α) : Except ε α := r.mapError lift

/-- An array whose elements are read alike. -/
def readArray {α : Type} (element : Item → Except ε α) (item : Item) : Except ε (List α) := do
  match ← lifting lift item.value with
  | .plain (.array items) => items.mapM element
  | v => if v.isNull then pure [] else .error (lift .mismatch)

/-- A key and its value. A key that stands for a zero value keeps the name of the key before it. -/
def readEntry {α : Type} (value : Item → Except ε α) (before : String) (pair : Item × Item) :
    Except ε (String × α) := do
  let key ← lifting lift (readTextOr before pair.1)
  let a ← value pair.2
  pure (key, a)

/-- The entries of a map, behind a key with a name, in the order of the document. -/
def readEntries {α : Type} (value : Item → Except ε α) (before : String) :
    List (Item × Item) → Except ε (List (String × α))
  | [] => pure []
  | pair :: pairs => do
    let e ← readEntry lift value before pair
    let es ← readEntries value e.1 pairs
    pure (e :: es)

/-- A map with texts as keys. -/
def readMap {α : Type} (value : Item → Except ε α) (item : Item) :
    Except ε (List (String × α)) := do
  match ← lifting lift item.value with
  | .plain (.map pairs) => readEntries lift value "" pairs
  | v => if v.isNull then pure [] else .error (lift .mismatch)

/-- A field of a record: its tag, and how an item is put into it. -/
structure FieldReader (ε ρ : Type) where
  tag : String
  read : Item → ρ → Except ε ρ

/-- A letter in lower case; only ASCII letters have one here. -/
def lowerByte (b : UInt8) : UInt8 := if 0x41 ≤ b ∧ b ≤ 0x5a then b + 0x20 else b

/-- Two texts that differ at most in the case of ASCII letters. -/
def sameLetters (s t : String) : Bool := (utf8 s).map lowerByte == (utf8 t).map lowerByte

/-- The field that a key names, in letters of either case, if no earlier entry did. -/
def fieldFor? {ρ : Type} (fields : List (FieldReader ε ρ)) (seen : List String) (key : String) :
    Option (FieldReader ε ρ) :=
  fields.find? fun f => sameLetters f.tag key && !seen.contains f.tag

/-- The name that a key has; none for a whole number, which names no field. -/
def readKey (key : Item) : Except Fault (Option String) :=
  match key with
  | .text chunks => some <$> chunksText chunks
  | .unsigned _ => .ok none
  | .negative n => if n ≤ 0x7fffffffffffffff then .ok none else .error .mismatch
  | _ => .error .mismatch

/-- One entry of a map, put into a record. The first entry for a field counts. -/
def readPair {ρ : Type} (fields : List (FieldReader ε ρ)) (state : List String × ρ)
    (pair : Item × Item) : Except ε (List String × ρ) := do
  match ← lifting lift (readKey pair.1) with
  | none => pure state
  | some key =>
    match fieldFor? fields state.1 key with
    | none => pure state
    | some f => do
      let r ← f.read pair.2 state.2
      pure (f.tag :: state.1, r)

/-- A map read into a record that is zero where the map has no entry. -/
def readRecord {ρ : Type} (fields : List (FieldReader ε ρ)) (zero : ρ) (item : Item) :
    Except ε ρ := do
  match ← lifting lift item.value with
  | .plain (.map pairs) => Prod.snd <$> pairs.foldlM (readPair lift fields) ([], zero)
  | v => if v.isNull then pure zero else .error (lift .mismatch)

end Containers

end LayerCode.Cbor
