/-!
# Data items

The items of the Concise Binary Object Representation, as far as they differ for a reader: a number
that fits no field is kept apart from one that does, but two ways to write the same head are not.

* `Item`: a data item;
* `Fault`: why bytes are no item, or an item does not fit the field it is read for.
-/

namespace LayerCode.Cbor

/-- A data item. -/
inductive Item where
  /-- The number `n`. -/
  | unsigned (n : Nat)
  /-- The number `-1 - n`. -/
  | negative (n : Nat)
  | bytes (content : List UInt8)
  /-- A text string as the chunks it was written in. -/
  | text (chunks : List (List UInt8))
  | array (items : List Item)
  | map (pairs : List (Item × Item))
  | tag (number : Nat) (content : Item)
  /-- A simple value without a meaning of its own. -/
  | simple (n : Nat)
  | bool (b : Bool)
  | null
  | undefined
  | float (bits : Nat)

/-- Why bytes are refused. -/
inductive Fault where
  /-- There are no bytes at all. -/
  | eof
  /-- The bytes end inside an item. -/
  | unexpectedEof
  /-- The bytes are no item. -/
  | malformed
  /-- An item is nested too deep or has too many elements. -/
  | limit
  /-- A length is beyond all memory. -/
  | length
  /-- An item is of another type than its field. -/
  | mismatch
  /-- A text is not valid UTF-8. -/
  | utf8
  /-- The content of a tag is of the wrong type. -/
  | tag
deriving DecidableEq, Repr

/-- The text of a fault. -/
def Fault.message : Fault → String
  | .eof => "EOF"
  | .unexpectedEof => "unexpected EOF"
  | .malformed => "cbor: <syntax>"
  | .limit => "cbor: <limit>"
  | .length => "cbor: <length>"
  | .mismatch => "cbor: <type>"
  | .utf8 => "cbor: <utf8>"
  | .tag => "cbor: <tag>"

end LayerCode.Cbor
