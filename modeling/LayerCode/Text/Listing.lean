/-!
# Numbers and lists in messages

* `decimal`: a number in decimal digits;
* `bracketed`: the words of a list between brackets, with blanks;
* `sortOn`: insertion sort by a text key, stable;
* `firstRepeated`: the first text that was there before;
* `firstSeen`: the first occurrences in a list.
-/

namespace LayerCode.Text

/-- A number in decimal digits, with a minus sign when it is negative. -/
def decimal (n : Int64) : String := n.toInt.repr

/-- Words between brackets, one blank apart. -/
def bracketed (words : List String) : String := "[" ++ " ".intercalate words ++ "]"

/-- Numbers between brackets, one blank apart. -/
def bracketedNumbers (ns : List Int64) : String := bracketed (ns.map decimal)

/-- Puts an element behind all elements with a smaller or equal key. -/
def insertOn {α : Type} (key : α → String) (a : α) : List α → List α
  | [] => [a]
  | b :: bs => if key a < key b then a :: b :: bs else b :: insertOn key a bs

/-- The elements in ascending order of their keys; equal keys keep their order. -/
def sortOn {α : Type} (key : α → String) (as : List α) : List α :=
  as.foldl (fun sorted a => insertOn key a sorted) []

/-- The first text that repeats an earlier one, or one already seen. -/
def firstRepeated : List String → List String → Option String
  | _, [] => none
  | seen, x :: xs => if seen.contains x then some x else firstRepeated (x :: seen) xs

/-- The elements of a list at their first occurrences. -/
def firstSeen {α : Type} [BEq α] (xs : List α) : List α :=
  xs.foldl (fun seen x => if seen.contains x then seen else seen ++ [x]) []

end LayerCode.Text
