/-!
# Numbers in binary formats

A number in a binary format has one bit of sign, then its exponent, then its fraction, and is held
as its bit pattern. The largest exponent is that of infinities, with the fraction zero, and of NaNs.
The exponent zero is that of numbers without a leading one.

* `Format`, `Format.half`, `Format.single`, `Format.double`;
* `roundShift`: a quotient by a power of two, to the nearest number, a tie to the even one;
* `Format.widen`: the same number in a wider format; a NaN becomes quiet;
* `Format.narrow`: the nearest number in a narrower format, infinity when it is too large; a NaN
  becomes quiet;
* `Half.ofSingle`, `Half.toSingle`, `Double.ofSingle`, `Double.toSingle`: singles in the other two
  formats, and back.
-/

namespace LayerCode

/-- The number nearest to `n / 2 ^ s`; of two equally near the even one. -/
def roundShift (n s : Nat) : Nat :=
  let unit := Nat.pow 2 s
  let quotient := n / unit
  let remainder := n % unit
  if unit < 2 * remainder ∨ (2 * remainder = unit ∧ quotient % 2 = 1) then quotient + 1
  else quotient

/-- A binary format: how many bits an exponent has, and how many a fraction. -/
structure Format where
  exponentBits : Nat
  fractionBits : Nat
deriving DecidableEq, Repr

namespace Format

/-- Numbers of 16 bits. -/
def half : Format := ⟨5, 10⟩

/-- Numbers of 32 bits. -/
def single : Format := ⟨8, 23⟩

/-- Numbers of 64 bits. -/
def double : Format := ⟨11, 52⟩

/-- The lowest bit of an exponent. -/
def unit (f : Format) : Nat := Nat.pow 2 f.fractionBits

/-- How many exponents there are. -/
def exponents (f : Format) : Nat := Nat.pow 2 f.exponentBits

/-- The exponent of infinities and NaNs. -/
def top (f : Format) : Nat := f.exponents - 1

/-- The sign bit. -/
def signBit (f : Format) : Nat := f.exponents * f.unit

/-- The bit of a fraction that tells a quiet NaN from a signalling one. -/
def quietBit (f : Format) : Nat := Nat.pow 2 (f.fractionBits - 1)

/-- How many bits more a fraction has in the wider format `g`. -/
def spare (f g : Format) : Nat := g.fractionBits - f.fractionBits

/-- How much larger the exponent of a number is in the wider format `g`. -/
def lift (f g : Format) : Nat :=
  Nat.pow 2 (g.exponentBits - 1) - Nat.pow 2 (f.exponentBits - 1)

/-- The number without sign that has this exponent and fraction, in the wider format `g`. -/
def widen (f g : Format) (exponent fraction : Nat) : Nat :=
  if exponent = f.top then
    if fraction = 0 then g.top * g.unit
    else g.top * g.unit + (fraction % f.quietBit + f.quietBit) * Nat.pow 2 (f.spare g)
  else if exponent = 0 then
    if fraction = 0 then 0
    else
      -- The highest bit of the fraction becomes the leading one.
      (fraction.log2 + f.lift g + 1 - f.fractionBits) * g.unit +
        (fraction - Nat.pow 2 fraction.log2) * Nat.pow 2 (g.fractionBits - fraction.log2)
  else (exponent + f.lift g) * g.unit + fraction * Nat.pow 2 (f.spare g)

/-- The number of the format `f` nearest to the number without sign that has this exponent and
fraction in the wider format `g`. -/
def narrow (f g : Format) (exponent fraction : Nat) : Nat :=
  if exponent = g.top then
    if fraction = 0 then f.top * f.unit
    else f.top * f.unit + (fraction / Nat.pow 2 (f.spare g) % f.quietBit + f.quietBit)
  else if f.top + f.lift g ≤ exponent then f.top * f.unit
  else if f.lift g < exponent then
    roundShift ((exponent - f.lift g) * g.unit + fraction) (f.spare g)
  else if exponent = 0 then 0
  else roundShift (g.unit + fraction) (f.lift g + f.spare g + 1 - exponent)

/-- The number of the format `g` with the sign of a number of the format `f`, and with what its
exponent and fraction are converted to. -/
def convert (f g : Format) (magnitude : Nat → Nat → Nat) (n : Nat) : Nat :=
  n / f.signBit * g.signBit + magnitude (n / f.unit % f.exponents) (n % f.unit)

end Format

namespace Half

/-- The half nearest to a single. -/
def ofSingle (bits : UInt32) : UInt16 :=
  UInt16.ofNat (Format.single.convert .half (Format.half.narrow .single) bits.toNat)

/-- A half as a single. -/
def toSingle (bits : UInt16) : UInt32 :=
  UInt32.ofNat (Format.half.convert .single (Format.half.widen .single) bits.toNat)

end Half

namespace Double

/-- A single as a double. -/
def ofSingle (bits : UInt32) : UInt64 :=
  UInt64.ofNat (Format.single.convert .double (Format.single.widen .double) bits.toNat)

/-- The single nearest to a double. -/
def toSingle (bits : UInt64) : UInt32 :=
  UInt32.ofNat (Format.double.convert .single (Format.single.narrow .double) bits.toNat)

end Double

end LayerCode
