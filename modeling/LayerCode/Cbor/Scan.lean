import LayerCode.Cbor.Item

/-!
# Scanning bytes for an item

A scanner takes an item off the front of the bytes and gives back the rest; the first problem in the
order of the bytes is its fault. Arrays and maps may be nested 32 deep, and in a chain of tags every
tag after the first counts as one more level. The scanners of a level are built from those of the
level inside it, so scanning ends without counting steps.

* `Head`, `scanHead`: the initial byte of an item with its argument;
* `Level`, `level`: the scanners that still have a number of levels to go down;
* `scan`: the first item of the bytes.
-/

namespace LayerCode.Cbor

/-- Takes a value off the front of the bytes and gives back the rest. -/
abbrev Scanner (α : Type) := List UInt8 → Except Fault (α × List UInt8)

/-- How many arrays and maps may be open at once. -/
def maxLevels : Nat := 32

/-- How many elements an array, and how many pairs a map may have. -/
def maxElements : Nat := 131072

/-- The largest length. -/
def maxLength : Nat := 0x7fffffffffffffff

/-! ## Heads -/

/-- The initial byte of an item, in its two parts, with the argument that goes with it. -/
structure Head where
  major : Nat
  info : Nat
  argument : Nat
deriving DecidableEq, Repr

/-- The item ends with a break. -/
def Head.isOpen (h : Head) : Bool := h.info == 31

/-- The next `n` bytes. -/
def takeBytes (n : Nat) : Scanner (List UInt8) := fun bytes =>
  let taken := bytes.take n
  if taken.length = n then .ok (taken, bytes.drop n) else .error .unexpectedEof

/-- The number that bytes denote, the most significant first. -/
def bigEndian (bytes : List UInt8) : Nat := bytes.foldl (fun n b => n * 256 + b.toNat) 0

/-- A number of `width` bytes. -/
def scanNumber (width : Nat) : Scanner Nat := fun bytes => do
  let (taken, rest) ← takeBytes width bytes
  pure (bigEndian taken, rest)

/-- The argument of a head. -/
def scanArgument (major info : Nat) : Scanner Nat := fun bytes =>
  if info < 24 then .ok (info, bytes)
  else if info = 24 then do
    let (n, rest) ← scanNumber 1 bytes
    if major = 7 ∧ n < 32 then .error .malformed else pure (n, rest)
  else if info = 25 then scanNumber 2 bytes
  else if info = 26 then scanNumber 4 bytes
  else if info = 27 then scanNumber 8 bytes
  else if info = 31 ∧ 2 ≤ major ∧ major ≤ 5 then .ok (0, bytes)
  else .error .malformed

/-- A head. Only strings, arrays and maps may be open. -/
def scanHead : Scanner Head
  | [] => .error .unexpectedEof
  | b :: bytes => do
    let major := b.toNat / 32
    let info := b.toNat % 32
    let (n, rest) ← scanArgument major info bytes
    pure (⟨major, info, n⟩, rest)

/-- The byte that ends an open item. -/
def breakByte : UInt8 := 0xff

/-! ## Strings -/

/-- The content of a string with a length. -/
def scanString (length : Nat) : Scanner (List UInt8) := fun bytes =>
  if maxLength < length then .error .length else takeBytes length bytes

/-- The chunks of an open string up to its break, with `fuel` at least the number of bytes. -/
def scanChunks (major : Nat) : Nat → List (List UInt8) → Scanner (List (List UInt8))
  | 0, _, _ => .error .unexpectedEof
  | _, _, [] => .error .unexpectedEof
  | fuel + 1, chunks, b :: bytes =>
    if b = breakByte then .ok (chunks.reverse, bytes)
    else if b.toNat / 32 ≠ major ∨ b.toNat % 32 = 31 then .error .malformed
    else do
      let (h, rest) ← scanHead (b :: bytes)
      let (chunk, rest) ← scanString h.argument rest
      scanChunks major fuel (chunk :: chunks) rest

/-- The chunks of a string; one with a length has a single chunk. -/
def scanStringBody (h : Head) : Scanner (List (List UInt8)) := fun bytes =>
  if h.isOpen then scanChunks h.major bytes.length [] bytes
  else do
    let (chunk, rest) ← scanString h.argument bytes
    pure ([chunk], rest)

/-! ## Arrays and maps -/

/-- A number of elements, behind those already found. -/
def scanCounted {α : Type} (element : Scanner α) : Nat → List α → Scanner (List α)
  | 0, found, bytes => .ok (found.reverse, bytes)
  | n + 1, found, bytes => do
    let (a, rest) ← element bytes
    scanCounted element n (a :: found) rest

/-- Elements up to the break, at most `room` of them. -/
def scanOpen {α : Type} (element : Scanner α) : Nat → List α → Scanner (List α)
  | _, _, [] => .error .unexpectedEof
  | 0, found, b :: bytes =>
    if b = breakByte then .ok (found.reverse, bytes)
    else do
      let _ ← element (b :: bytes)
      .error .limit
  | room + 1, found, b :: bytes =>
    if b = breakByte then .ok (found.reverse, bytes)
    else do
      let (a, rest) ← element (b :: bytes)
      scanOpen element room (a :: found) rest

/-- A key and its value. -/
def scanPair (item : Scanner Item) : Scanner (Item × Item) := fun bytes => do
  let (key, rest) ← item bytes
  let (value, rest) ← item rest
  pure ((key, value), rest)

/-- The elements of an array or the pairs of a map. -/
def scanElements {α : Type} (element : Scanner α) (h : Head) : Scanner (List α) := fun bytes =>
  if h.isOpen then scanOpen element maxElements [] bytes
  else if maxLength < h.argument then .error .length
  else if maxElements < h.argument then .error .limit
  else scanCounted element h.argument [] bytes

/-! ## Items by level -/

/-- The scanners with a number of levels to go down. -/
structure Level where
  /-- An item. -/
  item : Scanner Item
  /-- The content of a tag: one more tag goes down a level. -/
  content : Scanner Item

/-- A simple value or a floating-point number. -/
def primitive (h : Head) : Item :=
  if 24 < h.info then .float h.argument
  else if h.argument = 20 then .bool false
  else if h.argument = 21 then .bool true
  else if h.argument = 22 then .null
  else if h.argument = 23 then .undefined
  else .simple h.argument

/-- The item behind a head that is no tag, given the scanners of the level inside. -/
def scanBody (inner : Option Level) (h : Head) : Scanner Item := fun bytes =>
  match h.major with
  | 0 => .ok (.unsigned h.argument, bytes)
  | 1 => .ok (.negative h.argument, bytes)
  | 2 => do
    let (chunks, rest) ← scanStringBody h bytes
    pure (.bytes chunks.flatten, rest)
  | 3 => do
    let (chunks, rest) ← scanStringBody h bytes
    pure (.text chunks, rest)
  | 4 =>
    match inner with
    | none => .error .limit
    | some level => do
      let (items, rest) ← scanElements level.item h bytes
      pure (.array items, rest)
  | 5 =>
    match inner with
    | none => .error .limit
    | some level => do
      let (pairs, rest) ← scanElements (scanPair level.item) h bytes
      pure (.map pairs, rest)
  | _ => .ok (primitive h, bytes)

/-- The content of a tag, given the scanners of the level inside. -/
def scanContent (inner : Option Level) : Scanner Item := fun bytes => do
  let (h, rest) ← scanHead bytes
  if h.major = 6 then
    match inner with
    | none => .error .limit
    | some level => do
      let (content, rest) ← level.content rest
      pure (.tag h.argument content, rest)
  else scanBody inner h rest

/-- An item, given the scanners of the level inside. -/
def scanItem (inner : Option Level) : Scanner Item := fun bytes => do
  let (h, rest) ← scanHead bytes
  if h.major = 6 then do
    let (content, rest) ← scanContent inner rest
    pure (.tag h.argument content, rest)
  else scanBody inner h rest

/-- The scanners with `n` levels to go down. -/
def level : Nat → Level
  | 0 => ⟨scanItem none, scanContent none⟩
  | n + 1 => ⟨scanItem (some (level n)), scanContent (some (level n))⟩

/-- The first item of the bytes, and the rest. -/
def scan (bytes : List UInt8) : Except Fault (Item × List UInt8) :=
  match bytes with
  | [] => .error .eof
  | _ => (level maxLevels).item bytes

end LayerCode.Cbor
