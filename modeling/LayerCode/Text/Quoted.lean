import LayerCode.Text.Printable
import LayerCode.Text.Utf8

/-!
# Quoted text

Names in messages are quoted. A quote and a backslash get a backslash, the common control characters
their letter, printable characters stand as they are, and all others are written as the number of
their code point: two hexadecimal digits for ASCII, four up to U+FFFF, eight above.

* `escapeChar`, `quoted`: one character, and a whole text between its quotes;
* `RawText.quoted`: the same for text with stray bytes, which are written as two digits.
-/

namespace LayerCode.Text

/-- The hexadecimal digits of `n`, at least `width` of them. -/
def hexDigits (width n : Nat) : String :=
  let digits := Nat.toDigits 16 n
  String.ofList (List.replicate (width - digits.length) '0' ++ digits)

/-- The letter after the backslash of a control character that has one. -/
def controlLetter? (c : Char) : Option Char :=
  match c.toNat with
  | 7 => some 'a'
  | 8 => some 'b'
  | 9 => some 't'
  | 10 => some 'n'
  | 11 => some 'v'
  | 12 => some 'f'
  | 13 => some 'r'
  | _ => none

/-- The number of a code point: two digits in ASCII, four up to U+FFFF, eight above. -/
def codeEscape (n : Nat) : String :=
  if n < 0x80 then "\\x" ++ hexDigits 2 n
  else if n < 0x10000 then "\\u" ++ hexDigits 4 n
  else "\\U" ++ hexDigits 8 n

/-- One character inside quotes. -/
def escapeChar (c : Char) : String :=
  if c = '"' || c = '\\' then String.ofList ['\\', c]
  else if isPrintable c then String.singleton c
  else match controlLetter? c with
    | some letter => String.ofList ['\\', letter]
    | none => codeEscape c.toNat

/-- A text between quotes. -/
def quoted (s : String) : String := "\"" ++ String.join (s.toList.map escapeChar) ++ "\""

/-- One character or stray byte inside quotes. -/
def RawText.Piece.escape : RawText.Piece → String
  | .char c => escapeChar c
  | .byte b => "\\x" ++ hexDigits 2 b.toNat

/-- A text that may hold stray bytes, between quotes. -/
def RawText.quoted (t : RawText) : String :=
  "\"" ++ String.join (t.pieces.map Piece.escape) ++ "\""

end LayerCode.Text
