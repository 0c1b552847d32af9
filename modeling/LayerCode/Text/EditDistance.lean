/-!
# Edit distance

The distance of two texts is the least number of insertions, deletions and substitutions of single
characters that turn one into the other. It is computed row by row: a row holds the distances from
the first characters of the longer text to every beginning of the shorter one. Distances are 16-bit
words, so they are exact for texts below 65535 characters.

* `nextRow`, `rows`: one row from the row before, and the last row;
* `editDistance`: the distance of two texts.
-/

namespace LayerCode.Text

/-- The rest of a row. `c` is the row's character, `left` the distance just found, and `above` the
row before from the column of `left` on. -/
def nextRow (c : Char) : List Char → List UInt16 → UInt16 → List UInt16
  | d :: ds, diagonal :: up :: above, left =>
    let here := if c = d then diagonal else min (min (diagonal + 1) (left + 1)) (up + 1)
    left :: nextRow c ds (up :: above) here
  | _, _, left => [left]

/-- The last row, from `row` with number `n` and the remaining characters of the longer text. -/
def rows (columns : List Char) : List Char → UInt16 → List UInt16 → List UInt16
  | [], _, row => row
  | c :: cs, n, row => rows columns cs (n + 1) (nextRow c columns row (n + 1))

/-- The distance of two texts, the first not longer than the second. -/
def distanceOf (short long : List Char) : UInt16 :=
  (rows short long 0 ((List.range (short.length + 1)).map UInt16.ofNat)).getLastD 0

/-- The least number of single-character edits between two texts. -/
def editDistance (s t : String) : Nat :=
  let a := s.toList
  let b := t.toList
  (if b.length < a.length then distanceOf b a else distanceOf a b).toNat

end LayerCode.Text
