import LayerCode.Text.Listing

/-!
# Values of flags

* `parseBool`: a switch;
* `parseInt`: a whole number of 64 bits, in base two, eight, ten or sixteen;
* `parseDuration`: a time span, as numbers with units.
-/

namespace LayerCode.Command

/-- The switch that a text says. -/
def parseBool (text : String) : Option Bool :=
  if ["1", "t", "T", "TRUE", "true", "True"].contains text then some true
  else if ["0", "f", "F", "FALSE", "false", "False"].contains text then some false
  else none

/-! ## Whole numbers -/

/-- The value of a digit, in bases up to sixteen. -/
def digitValue? (c : Char) : Option Nat :=
  if '0' ≤ c ∧ c ≤ '9' then some (c.toNat - '0'.toNat)
  else if 'a' ≤ c ∧ c ≤ 'f' then some (c.toNat - 'a'.toNat + 10)
  else if 'A' ≤ c ∧ c ≤ 'F' then some (c.toNat - 'A'.toNat + 10)
  else none

/-- The number that digits denote behind `n`. An underscore has to stand between digits; `digit`
says whether one came before. -/
def digits (base : Nat) : Bool → Nat → List Char → Option Nat
  | digit, n, [] => if digit then some n else none
  | digit, n, c :: cs =>
    if c = '_' then if digit then digits base false n cs else none
    else match digitValue? c with
      | some d => if d < base then digits base true (n * base + d) cs else none
      | none => none

/-- A number without a sign; what it starts with tells its base. -/
def unsigned (cs : List Char) : Option Nat :=
  match cs with
  | '0' :: b :: c :: rest =>
    if b = 'x' ∨ b = 'X' then digits 16 true 0 (c :: rest)
    else if b = 'o' ∨ b = 'O' then digits 8 true 0 (c :: rest)
    else if b = 'b' ∨ b = 'B' then digits 2 true 0 (c :: rest)
    else digits 8 true 0 (b :: c :: rest)
  | '0' :: rest => digits 8 true 0 rest
  | cs => digits 10 false 0 cs

/-- A number with the sign in front of it, if there is one. -/
def signed (number : List Char → Option Nat) (cs : List Char) : Option Int :=
  match cs with
  | '-' :: rest => (number rest).map fun n => -(n : Int)
  | '+' :: rest => (number rest).map fun n => (n : Int)
  | rest => (number rest).map fun n => (n : Int)

/-- The number fits into 64 bits. -/
def inRange (n : Int) : Bool := -0x8000000000000000 ≤ n && n ≤ 0x7fffffffffffffff

/-- The whole number that a text says. -/
def parseInt (text : String) : Option Int := (signed unsigned text.toList).filter inRange

/-- The whole number that a text says in decimal digits alone. -/
def parseDecimal (text : String) : Option Int :=
  if text.toList.contains '_' then none
  else (signed (digits 10 false 0) text.toList).filter inRange

/-! ## Time spans -/

/-- A unit of time in nanoseconds. -/
def unit? (name : String) : Option Nat :=
  if name = "ns" then some 1
  else if name = "us" ∨ name = "µs" ∨ name = "μs" then some 1000
  else if name = "ms" then some 1000000
  else if name = "s" then some 1000000000
  else if name = "m" then some 60000000000
  else if name = "h" then some 3600000000000
  else none

/-- The longest time span, before its sign is looked at. -/
def maxSpan : Nat := 0x8000000000000000

/-- The decimal digits at the front, and the rest. -/
def leadingDigits (cs : List Char) : List Char × List Char := cs.span Char.isDigit

/-- The number that decimal digits denote. -/
def decimalValue (cs : List Char) : Nat := cs.foldl (fun n c => n * 10 + (c.toNat - '0'.toNat)) 0

/-- A number with its unit, in nanoseconds, and the rest. -/
def timePart (cs : List Char) : Option (Nat × List Char) :=
  let (whole, rest) := leadingDigits cs
  let (fraction, rest) :=
    match rest with
    | '.' :: more => leadingDigits more
    | more => ([], more)
  let (name, rest) := rest.span fun c => !(c.isDigit || c == '.')
  if whole.isEmpty && fraction.isEmpty then none
  else if maxSpan < decimalValue whole then none
  else do
    let unit ← unit? (String.ofList name)
    let n := decimalValue whole * unit + decimalValue fraction * unit / Nat.pow 10 fraction.length
    if maxSpan < n then none else pure (n, rest)

/-- The sum of numbers with units, at most `fuel` of them. -/
def timeParts : Nat → Nat → List Char → Option Nat
  | _, total, [] => some total
  | 0, _, _ => none
  | fuel + 1, total, cs => do
    let (n, rest) ← timePart cs
    if maxSpan < total + n then none else timeParts fuel (total + n) rest

/-- A time span without a sign, in nanoseconds; nothing but a zero needs no unit. -/
def unsignedDuration (cs : List Char) : Option Nat :=
  if cs = ['0'] then some 0
  else if cs.isEmpty then none
  else timeParts cs.length 0 cs

/-- The time span that a text says, in nanoseconds. -/
def parseDuration (text : String) : Option Int :=
  (signed unsignedDuration text.toList).filter inRange

end LayerCode.Command
