/-!
# Bytes of text

Text is a `String`; on the wire it is its UTF-8 bytes. Text that reaches the program as bytes (a
decoded query, a string literal with byte escapes) may hold bytes that are no UTF-8, and keeps them.

* `utf8`, `ofUtf8?`: the bytes of a text, and the text of bytes that are valid UTF-8;
* `RawText`: text that may hold other bytes, and `RawText.pieces`, its characters and stray bytes.
-/

namespace LayerCode.Text

/-- The UTF-8 bytes of a text. -/
def utf8 (s : String) : List UInt8 := s.toUTF8.data.toList

/-- The text with these UTF-8 bytes; none when they are not valid UTF-8. -/
def ofUtf8? (bytes : List UInt8) : Option String := String.fromUTF8? ⟨bytes.toArray⟩

/-- Text that may hold bytes that are not UTF-8. -/
structure RawText where
  bytes : List UInt8
deriving DecidableEq, Repr

namespace RawText

/-- A text, as its bytes. -/
def ofString (s : String) : RawText := ⟨utf8 s⟩

/-- The text, when its bytes are valid UTF-8. -/
def toString? (t : RawText) : Option String := ofUtf8? t.bytes

/-- A character, or a byte that is part of none. -/
inductive Piece where
  | char (c : Char)
  | byte (b : UInt8)
deriving DecidableEq, Repr

/-- The character that the bytes start with, and the bytes after it. -/
def firstChar? (bytes : List UInt8) : Option (Char × List UInt8) :=
  [1, 2, 3, 4].findSome? fun n =>
    match (ofUtf8? (bytes.take n)).map String.toList with
    | some [c] => some (c, bytes.drop n)
    | _ => none

/-- Characters and stray bytes from the left, at most `fuel` of them. -/
def piecesFrom : Nat → List UInt8 → List Piece
  | 0, _ => []
  | _, [] => []
  | fuel + 1, b :: rest =>
    match firstChar? (b :: rest) with
    | some (c, after) => .char c :: piecesFrom fuel after
    | none => .byte b :: piecesFrom fuel rest

/-- The characters of the text and the bytes that are part of none, in order. -/
def pieces (t : RawText) : List Piece := piecesFrom t.bytes.length t.bytes

end RawText

end LayerCode.Text
