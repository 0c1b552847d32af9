import Mathlib.Tactic.Ring
import LayerCode.Proofs.Number.Format

/-!
# What double precision leaves of a value

A value of a tensor that is taken to double precision and back keeps its bit pattern, except that a
NaN is made quiet.

* `Tensor.isNaN`, `Tensor.quiet`: bit patterns of NaNs, and a value with a NaN made quiet;
* `Tensor.quiet_eq_self_iff`: the values that making NaNs quiet does not change;
* **`Tensor.toSingle_ofSingle`**: the bit pattern after both conversions.
-/

namespace LayerCode.Tensor

/-- The exponent bits of a single-precision number. -/
def exponentMask : UInt32 := 0x7f800000

/-- The fraction bits of a single-precision number. -/
def fractionMask : UInt32 := 0x007fffff

/-- The bit that tells a quiet NaN from a signalling one. -/
def quietBit : UInt32 := 0x00400000

/-- The bit pattern is of a NaN. -/
def isNaN (bits : UInt32) : Bool :=
  bits &&& exponentMask == exponentMask && bits &&& fractionMask != 0

/-- A NaN made quiet; any other number as it is. -/
def quiet (bits : UInt32) : UInt32 := if isNaN bits then bits ||| quietBit else bits

/-- The bit pattern is of a NaN that is not quiet. -/
def isSignalling (bits : UInt32) : Bool := isNaN bits && bits &&& quietBit == 0

/-! ## Bits as numbers -/

theorem and_shiftLeft (n mask k : Nat) : n &&& mask <<< k = (n / 2 ^ k &&& mask) <<< k := by
  refine Nat.eq_of_testBit_eq fun i => ?_
  rw [Nat.testBit_and, Nat.testBit_shiftLeft, Nat.testBit_shiftLeft, Nat.testBit_and,
    Nat.testBit_div_two_pow]
  by_cases h : k ≤ i
  · simp [h]
  · simp [h]

theorem or_two_pow (n k : Nat) :
    n ||| 2 ^ k = n / 2 ^ (k + 1) * 2 ^ (k + 1) + (n % 2 ^ k + 2 ^ k) := by
  have hsplit : n / 2 ^ (k + 1) * 2 ^ (k + 1) + (n % 2 ^ k + 2 ^ k) =
      2 ^ k * (2 * (n / 2 ^ (k + 1)) + 1) + n % 2 ^ k := by
    rw [Nat.pow_succ]
    ring
  rw [hsplit]
  refine Nat.eq_of_testBit_eq fun i => ?_
  rw [Nat.testBit_or, Nat.testBit_two_pow_mul_add _ (Nat.mod_lt _ (Nat.two_pow_pos k)),
    Nat.testBit_two_pow]
  by_cases hik : i < k
  · simp [hik, hik.ne']
  · obtain ⟨j, rfl⟩ := Nat.exists_eq_add_of_le (Nat.le_of_not_lt hik)
    rw [if_neg hik, Nat.add_sub_cancel_left]
    cases j with
    | zero => simp
    | succ j =>
      have hhigh : (2 * (n / 2 ^ (k + 1)) + 1) / 2 = n / 2 ^ (k + 1) := by omega
      have hne : decide (k = k + (j + 1)) = false := by simp
      rw [Nat.testBit_succ, hhigh, Nat.testBit_div_two_pow, hne, Bool.or_false]
      congr 1
      omega

theorem toNat_and_exponentMask (b : UInt32) :
    (b &&& exponentMask).toNat = b.toNat / 2 ^ 23 % 2 ^ 8 * 2 ^ 23 := by
  rw [UInt32.toNat_and, show exponentMask.toNat = (2 ^ 8 - 1) <<< 23 from rfl, and_shiftLeft,
    Nat.and_two_pow_sub_one_eq_mod, Nat.shiftLeft_eq]

theorem toNat_and_fractionMask (b : UInt32) : (b &&& fractionMask).toNat = b.toNat % 2 ^ 23 := by
  rw [UInt32.toNat_and, show fractionMask.toNat = 2 ^ 23 - 1 from rfl,
    Nat.and_two_pow_sub_one_eq_mod]

theorem toNat_or_quietBit (b : UInt32) :
    (b ||| quietBit).toNat = b.toNat / 2 ^ 23 * 2 ^ 23 + (b.toNat % 2 ^ 22 + 2 ^ 22) := by
  rw [UInt32.toNat_or, show quietBit.toNat = 2 ^ 22 from rfl, or_two_pow]

theorem isNaN_iff (b : UInt32) :
    isNaN b = true ↔ b.toNat / 2 ^ 23 % 2 ^ 8 = 2 ^ 8 - 1 ∧ b.toNat % 2 ^ 23 ≠ 0 := by
  rw [isNaN, Bool.and_eq_true, beq_iff_eq, bne_iff_ne, ← UInt32.toNat_inj, toNat_and_exponentMask,
    ne_eq, ← UInt32.toNat_inj, toNat_and_fractionMask,
    show exponentMask.toNat = (2 ^ 8 - 1) * 2 ^ 23 from rfl,
    Nat.mul_left_inj (Nat.two_pow_pos 23).ne']
  rfl

/-! ## Making NaNs quiet -/

theorem quiet_quiet (b : UInt32) : quiet (quiet b) = quiet b := by
  have hor : b ||| quietBit ||| quietBit = b ||| quietBit := by
    rw [UInt32.or_assoc, UInt32.or_self]
  by_cases hb : isNaN b = true
  · rw [quiet, quiet, if_pos hb, hor, ite_self]
  · rw [quiet, quiet, if_neg hb, if_neg hb]

theorem or_quietBit_eq_self_iff (b : UInt32) : b ||| quietBit = b ↔ b &&& quietBit ≠ 0 := by
  have hor : (b ||| quietBit).toNat =
      b.toNat / 0x800000 * 0x800000 + (b.toNat % 0x400000 + 0x400000) := toNat_or_quietBit b
  have hand : (b &&& quietBit).toNat = b.toNat / 0x400000 % 2 * 0x400000 := by
    rw [UInt32.toNat_and, show quietBit.toNat = (2 ^ 1 - 1) <<< 22 from rfl, and_shiftLeft,
      Nat.and_two_pow_sub_one_eq_mod, Nat.shiftLeft_eq]
    rfl
  rw [← UInt32.toNat_inj, ne_eq, ← UInt32.toNat_inj, hor, hand, UInt32.toNat_zero]
  omega

theorem quiet_eq_self_iff (b : UInt32) : quiet b = b ↔ isSignalling b = false := by
  by_cases hb : isNaN b = true
  · rw [quiet, if_pos hb, or_quietBit_eq_self_iff, isSignalling, hb, Bool.true_and,
      beq_eq_false_iff_ne]
  · rw [quiet, if_neg hb, isSignalling, Bool.eq_false_of_not_eq_true hb, Bool.false_and]
    exact iff_of_true rfl rfl

/-! ## Double precision -/

theorem single_wider_double : Format.Wider .single .double := by
  constructor <;> decide

/-- **A value that was taken to double precision and back is the value made quiet.** -/
theorem toSingle_ofSingle (b : UInt32) : Double.toSingle (Double.ofSingle b) = quiet b := by
  have hlt : b.toNat < 2 * Format.single.signBit := b.toNat_lt
  have hdouble : (Double.ofSingle b).toNat =
      Format.single.convert .double (Format.single.widen .double) b.toNat :=
    UInt64.toNat_ofNat_of_lt (Format.convert_widen_lt single_wider_double hlt)
  rw [Double.toSingle, hdouble, Format.convert_convert single_wider_double, quiet, Format.quieted]
  have hnan : (b.toNat / Format.single.unit % Format.single.exponents = Format.single.top ∧
      b.toNat % Format.single.unit ≠ 0) ↔ isNaN b = true := (isNaN_iff b).symm
  by_cases hb : isNaN b = true
  · have htop : b.toNat / 0x800000 % 0x100 = 0xff := ((isNaN_iff b).mp hb).1
    have hor : (b ||| quietBit).toNat =
        b.toNat / 0x800000 * 0x800000 + (b.toNat % 0x400000 + 0x400000) := toNat_or_quietBit b
    have hjoin : b.toNat / Format.single.signBit * Format.single.signBit +
        (Format.single.top * Format.single.unit +
          (b.toNat % Format.single.unit % Format.single.quietBit + Format.single.quietBit)) =
        (b ||| quietBit).toNat := by
      show b.toNat / 0x80000000 * 0x80000000 +
        (0xff * 0x800000 + (b.toNat % 0x800000 % 0x400000 + 0x400000)) = _
      omega
    rw [if_pos (hnan.mpr hb), if_pos hb, hjoin, UInt32.ofNat_toNat]
  · rw [if_neg (mt hnan.mp hb), if_neg hb, Format.join_fields, UInt32.ofNat_toNat]

end LayerCode.Tensor
