import LayerCode.Text.CaseClass
import LayerCode.Text.CaseMap

/-!
# Lower case of a text

Every character is mapped on its own, except the capital sigma: at the end of a word it becomes the
final sigma. It stands at the end when a cased character comes before it in the word and none after
it, where case-ignorable characters are skipped on both sides (after it, at most thirty).

* `sigmaIsFinal`: what follows a sigma leaves it at the end of its word;
* `lower`: the lower case of a text.
-/

namespace LayerCode.Text

/-- The capital sigma, the one letter whose lower case depends on its neighbours. -/
def capitalSigma : Char := Char.ofNat 0x3a3

/-- How many characters after a sigma are looked at. -/
def sigmaReach : Nat := 31

/-- No cased character follows in the word. -/
def sigmaIsFinal (rest : List Char) : Bool :=
  match (rest.take sigmaReach).dropWhile isCaseIgnorable with
  | [] => true
  | c :: _ => !isCased c

/-- The lower case of a character inside a word that has a cased character before it. -/
def lowerInWord (c : Char) (rest : List Char) : List Char :=
  if c = capitalSigma then [Char.ofNat (if sigmaIsFinal rest then 0x3c2 else 0x3c3)]
  else lowerChar c

/-- Lower case from the left; `inWord` tells that a cased character came before in the word. -/
def lowerFrom : Bool → List Char → List Char
  | _, [] => []
  | false, c :: rest =>
    if isCased c then lowerChar c ++ lowerFrom true rest else c :: lowerFrom false rest
  | true, c :: rest =>
    if isCased c || isCaseIgnorable c then lowerInWord c rest ++ lowerFrom true rest
    else c :: lowerFrom false rest

/-- The lower case of a text. -/
def lower (s : String) : String := String.ofList (lowerFrom false s.toList)

end LayerCode.Text
