import LayerCode.Text.Lower
import LayerCode.Text.WordClass

/-!
# Title case of a text

In each word the first cased character gets its title case and the cased ones after it their lower
case. A word goes on through digits, underscores, combining marks and single mid-word marks such as
the apostrophe; it ends at blanks, at most punctuation and at two mid-word marks in a row.

* `title`: the title case of a text.
-/

namespace LayerCode.Text

/-- Title case from the left. `inWord` tells that the word has had its first cased character,
`afterMid` that a mid-word mark comes right before. -/
def titleFrom : Bool → Bool → List Char → List Char
  | _, _, [] => []
  | inWord, afterMid, c :: rest =>
    let mid := isMidWord c
    let goesOn := inWord && !(afterMid && mid)
    if isCased c then
      (if goesOn then lowerInWord c rest else titleChar c) ++ titleFrom true false rest
    else c :: titleFrom (goesOn && !endsWord c) mid rest

/-- The title case of a text. -/
def title (s : String) : String := String.ofList (titleFrom false false s.toList)

end LayerCode.Text
