import LayerCode.Text.Utf8

/-!
# Queries

The query of a request is pairs of a name and a value, with `&` between them. Bytes are written as
a percent sign and two hexadecimal digits, and a blank may be written as a plus sign. A pair with a
semicolon or a broken escape is dropped.

* `splitOn`: the parts of a list between separators;
* `unescape`: the bytes of an escaped text;
* `Query.pairs`, `Query.first`: the pairs, and the first value of a name.
-/

namespace LayerCode.Service

open Text

/-- The parts of a list between separators. -/
def splitOn {α : Type} [DecidableEq α] (sep : α) : List α → List (List α)
  | [] => [[]]
  | a :: as =>
    if a = sep then [] :: splitOn sep as
    else match splitOn sep as with
      | [] => [[a]]
      | p :: ps => (a :: p) :: ps

/-- The value of a hexadecimal digit. -/
def hexValue? (b : UInt8) : Option UInt8 :=
  if 0x30 ≤ b ∧ b ≤ 0x39 then some (b - 0x30)
  else if 0x61 ≤ b ∧ b ≤ 0x66 then some (b - 0x61 + 10)
  else if 0x41 ≤ b ∧ b ≤ 0x46 then some (b - 0x41 + 10)
  else none

/-- The bytes of an escaped text; none when an escape is broken. -/
def unescape : List UInt8 → Option (List UInt8)
  | [] => some []
  | 0x25 :: a :: b :: rest => do
    let high ← hexValue? a
    let low ← hexValue? b
    let after ← unescape rest
    pure ((high * 16 + low) :: after)
  | 0x25 :: _ => none
  | 0x2b :: rest => (0x20 :: ·) <$> unescape rest
  | b :: rest => (b :: ·) <$> unescape rest

namespace Query

/-- A name with its value; none when the pair is dropped. -/
def pair? (bytes : List UInt8) : Option (RawText × RawText) :=
  if bytes.isEmpty || bytes.contains 0x3b then none
  else do
    let name ← unescape (bytes.takeWhile (· != 0x3d))
    let value ← unescape ((bytes.dropWhile (· != 0x3d)).drop 1)
    pure (⟨name⟩, ⟨value⟩)

/-- The pairs of a query. -/
def pairs (query : String) : List (RawText × RawText) :=
  (splitOn 0x26 (utf8 query)).filterMap pair?

/-- The first value of a name; empty when there is none. -/
def first (query : String) (name : String) : RawText :=
  ((pairs query).lookup (RawText.ofString name)).getD ⟨[]⟩

end Query

end LayerCode.Service
