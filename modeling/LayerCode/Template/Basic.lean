import LayerCode.Text.Utf8

/-!
# Templates

A template is literal text with actions between double braces. An action names a value by a path of
fields, and may give arguments, which are string literals:

* a path is a dot, or fields that each start with a dot;
* an argument is text between quotes, with escapes, or between backquotes, as it stands.

`Template.parse` reads a template; anything else between the braces is no template.
-/

namespace LayerCode

open Text

namespace Template

/-- A part of a template: text that stands for itself, or a value to look up. -/
inductive Piece where
  | literal (text : String)
  | lookup (path : List String) (arguments : List RawText)
deriving DecidableEq, Repr

end Template

/-- Literal text and values to look up, in order. -/
abbrev Template := List Template.Piece

namespace Template

/-! ## String literals -/

/-- The value of a hexadecimal digit. -/
def hexValue? (c : Char) : Option Nat :=
  if '0' ≤ c ∧ c ≤ '9' then some (c.toNat - '0'.toNat)
  else if 'a' ≤ c ∧ c ≤ 'f' then some (c.toNat - 'a'.toNat + 10)
  else if 'A' ≤ c ∧ c ≤ 'F' then some (c.toNat - 'A'.toNat + 10)
  else none

/-- The value of an octal digit. -/
def octalValue? (c : Char) : Option Nat :=
  if '0' ≤ c ∧ c ≤ '7' then some (c.toNat - '0'.toNat) else none

/-- The number that digits denote. -/
def number? (base : Nat) (value? : Char → Option Nat) (digits : List Char) : Option Nat :=
  digits.foldlM (fun n c => (value? c).map (n * base + ·)) 0

/-- The byte with a number. -/
def byte? (n : Nat) : Option (List UInt8) := if n < 256 then some [UInt8.ofNat n] else none

/-- The bytes of the character with a number. -/
def charBytes? (n : Nat) : Option (List UInt8) :=
  if n.isValidChar then some (utf8 (String.singleton (Char.ofNat n))) else none

/-- The character that a letter after a backslash stands for. -/
def escapeLetter? (c : Char) : Option Nat :=
  match c with
  | 'a' => some 7
  | 'b' => some 8
  | 't' => some 9
  | 'n' => some 10
  | 'v' => some 11
  | 'f' => some 12
  | 'r' => some 13
  | '\\' => some 92
  | '"' => some 34
  | _ => none

/-- Puts bytes in front of the content of a literal. -/
def prepend (bytes : Option (List UInt8)) (rest : Option (List UInt8 × List Char)) :
    Option (List UInt8 × List Char) := do
  let b ← bytes
  let (content, after) ← rest
  pure (b ++ content, after)

/-- The content of a literal up to its closing quote, and what follows it. -/
def quotedContent : List Char → Option (List UInt8 × List Char)
  | [] => none
  | '"' :: rest => some ([], rest)
  | '\n' :: _ => none
  | '\\' :: 'x' :: a :: b :: rest =>
    prepend ((number? 16 hexValue? [a, b]).bind byte?) (quotedContent rest)
  | '\\' :: 'u' :: a :: b :: c :: d :: rest =>
    prepend ((number? 16 hexValue? [a, b, c, d]).bind charBytes?) (quotedContent rest)
  | '\\' :: 'U' :: a :: b :: c :: d :: e :: f :: g :: h :: rest =>
    prepend ((number? 16 hexValue? [a, b, c, d, e, f, g, h]).bind charBytes?) (quotedContent rest)
  | '\\' :: c :: rest =>
    match escapeLetter? c, rest with
    | some n, rest => prepend (charBytes? n) (quotedContent rest)
    | none, b :: a :: rest => prepend ((number? 8 octalValue? [c, b, a]).bind byte?) (quotedContent rest)
    | none, _ => none
  | c :: rest => prepend (some (utf8 (String.singleton c))) (quotedContent rest)

/-- The content of a literal up to its closing backquote, and what follows it. Carriage returns are
dropped. -/
def rawContent : List Char → Option (List UInt8 × List Char)
  | [] => none
  | c :: rest =>
    if c.toNat = 96 then some ([], rest)
    else if c = '\r' then rawContent rest
    else prepend (some (utf8 (String.singleton c))) (rawContent rest)

/-! ## Actions -/

/-- The character separates the parts of an action. -/
def isBlank (c : Char) : Bool := c == ' ' || c == '\t' || c == '\r' || c == '\n'

/-- The character may stand in the name of a field. -/
def isNameChar (c : Char) : Bool := c.isAlphanum || c == '_' || 0x80 ≤ c.toNat

/-- The fields of a path, each with a dot in front, at most `fuel` of them. -/
def pathFields : Nat → List Char → Option (List String × List Char)
  | fuel + 1, '.' :: rest =>
    let name := rest.takeWhile isNameChar
    match name with
    | [] => none
    | c :: _ =>
      if c.isDigit then none
      else do
        let (fields, after) ← pathFields fuel (rest.dropWhile isNameChar)
        pure (String.ofList name :: fields, after)
  | _, rest => some ([], rest)

/-- The end of an action. -/
def isEnd (cs : List Char) : Bool :=
  match cs with
  | c :: d :: _ => c.toNat = 0x7d && d.toNat = 0x7d
  | _ => false

/-- A path: a dot alone, or fields. -/
def path (cs : List Char) : Option (List String × List Char) :=
  match cs with
  | '.' :: rest =>
    if isEnd rest || (rest.head?.map isBlank).getD false then some ([], rest)
    else pathFields cs.length cs
  | _ => none

/-- A string literal. -/
def argument (cs : List Char) : Option (RawText × List Char) :=
  match cs with
  | [] => none
  | c :: rest =>
    if c = '"' then (quotedContent rest).map fun (b, after) => (⟨b⟩, after)
    else if c.toNat = 96 then (rawContent rest).map fun (b, after) => (⟨b⟩, after)
    else none

/-- The arguments up to the end of an action, each behind a blank, at most `fuel` of them. -/
def arguments : Nat → List Char → Option (List RawText × List Char)
  | 0, _ => none
  | fuel + 1, cs =>
    let rest := cs.dropWhile isBlank
    if isEnd rest then some ([], rest.drop 2)
    else if (cs.head?.map isBlank).getD false then do
      let (a, after) ← argument rest
      let (as, after) ← arguments fuel after
      pure (a :: as, after)
    else none

/-- An action, behind its opening braces. -/
def action (cs : List Char) : Option (Piece × List Char) := do
  let (fields, rest) ← path (cs.dropWhile isBlank)
  let (args, rest) ← arguments (rest.length + 1) rest
  pure (.lookup fields args, rest)

/-! ## Whole templates -/

/-- The text up to the next opening braces, and what follows them. -/
def literalPart : List Char → List Char × Option (List Char)
  | [] => ([], none)
  | c :: rest =>
    if c.toNat = 0x7b ∧ (rest.head?.map Char.toNat) = some 0x7b then ([], some (rest.drop 1))
    else
      let (text, after) := literalPart rest
      (c :: text, after)

/-- Literal text, unless it is empty. -/
def literalPiece (text : List Char) : Template :=
  if text.isEmpty then [] else [.literal (String.ofList text)]

/-- The pieces of a template, with at most `fuel` actions. -/
def pieces : Nat → List Char → Option Template
  | 0, _ => none
  | fuel + 1, cs =>
    match literalPart cs with
    | (text, none) => some (literalPiece text)
    | (text, some rest) => do
      let (piece, after) ← action rest
      let more ← pieces fuel after
      pure (literalPiece text ++ piece :: more)

/-- The template that a text is. -/
def parse (text : String) : Option Template := pieces (text.length + 1) text.toList

end Template

end LayerCode
