import LayerCode.Text.Utf8

/-!
# Writing items

Items are written with their length and the shortest head. A writer gives the bytes of an item, and
the writers of arrays and maps take the bytes of their elements.

* `head`: the initial byte with its argument;
* `int`, `text`, `bytes`, `bool`, `null`, `array`, `map`.
-/

namespace LayerCode.Cbor.Write

open Text

/-- The last `width` base-256 digits of a number, the most significant first. -/
def bigEndian : Nat → Nat → List UInt8
  | 0, _ => []
  | width + 1, n => bigEndian width (n / 256) ++ [UInt8.ofNat n]

/-- The shortest head with an argument below `2 ^ 64`. -/
def head (major n : Nat) : List UInt8 :=
  if n < 24 then [UInt8.ofNat (major * 32 + n)]
  else if n < 0x100 then UInt8.ofNat (major * 32 + 24) :: bigEndian 1 n
  else if n < 0x10000 then UInt8.ofNat (major * 32 + 25) :: bigEndian 2 n
  else if n < 0x100000000 then UInt8.ofNat (major * 32 + 26) :: bigEndian 4 n
  else UInt8.ofNat (major * 32 + 27) :: bigEndian 8 n

/-- A whole number. -/
def int (n : Int64) : List UInt8 :=
  if 0 ≤ n then head 0 n.toInt.toNat else head 1 (-1 - n.toInt).toNat

/-- A byte string. -/
def bytes (b : List UInt8) : List UInt8 := head 2 b.length ++ b

/-- A text. -/
def text (s : String) : List UInt8 := head 3 (utf8 s).length ++ utf8 s

/-- A switch. -/
def bool (b : Bool) : List UInt8 := [if b then 0xf5 else 0xf4]

/-- No value. -/
def null : List UInt8 := [0xf6]

/-- An array of items. -/
def array (items : List (List UInt8)) : List UInt8 := head 4 items.length ++ items.flatten

/-- A map with texts as keys. -/
def map (entries : List (String × List UInt8)) : List UInt8 :=
  head 5 entries.length ++ entries.flatMap fun e => text e.1 ++ e.2

end LayerCode.Cbor.Write
