/-!
# Comparison without regard to case

Two spellings of a keyword are the same when their case foldings are. The keywords are lower-case
ASCII words, so only characters whose folding is made of ASCII letters can take part in a match:
the capital letters, the long s, the Kelvin sign, the sharp s and the Latin ligatures. Every other
character stands for itself.

* `foldChar`, `fold`: case folding onto ASCII words;
* `sameWord`: a text is a spelling of a keyword.
-/

namespace LayerCode.Text

/-- The folding of a character, as far as it consists of ASCII letters. -/
def foldChar (c : Char) : List Char :=
  match c.toNat with
  | 0xdf => ['s', 's']
  | 0x17f => ['s']
  | 0x1e9e => ['s', 's']
  | 0x212a => ['k']
  | 0xfb00 => ['f', 'f']
  | 0xfb01 => ['f', 'i']
  | 0xfb02 => ['f', 'l']
  | 0xfb03 => ['f', 'f', 'i']
  | 0xfb04 => ['f', 'f', 'l']
  | 0xfb05 => ['s', 't']
  | 0xfb06 => ['s', 't']
  | _ => [c.toLower]

/-- The folding of a text onto ASCII words. -/
def fold (s : String) : String := String.ofList (s.toList.flatMap foldChar)

/-- The text spells the lower-case ASCII word, in any case. -/
def sameWord (s word : String) : Bool := fold s == word

end LayerCode.Text
