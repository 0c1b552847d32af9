import Mathlib.Algebra.GroupWithZero.Nat
import LayerCode.Proofs.Number.Format

/-!
# Numbers taken to a narrower format

Narrowing rounds, so it loses digits once; but a number that was narrowed comes back from the wider
format as it is, because rounding never makes a signalling NaN. Widening does not tell a signalling
NaN from the quiet one, so what a narrow number becomes in the wider format is kept as well.

* `roundShift_le`: rounding does not go beyond a multiple of the power of two;
* `Format.narrow_cases`, **`Format.quieted_narrow`**: what narrowing can give, and that none of it
  is a signalling NaN;
* `Format.convert_narrow_returns`, `Format.convert_widen_returns`: numbers that come back;
* `Half.rounded`, **`Half.ofSingle_rounded`**, **`Half.rounded_eq_self_iff`**: the same for halves.
-/

namespace LayerCode

theorem roundShift_le {n s m : Nat} (h : n ≤ m * 2 ^ s) : roundShift n s ≤ m := by
  have hpos : 0 < 2 ^ s := Nat.two_pow_pos s
  have hpow : Nat.pow 2 s = 2 ^ s := rfl
  have hdiv := Nat.div_add_mod n (2 ^ s)
  simp only [roundShift, hpow]
  by_cases hq : n / 2 ^ s < m
  · split_ifs <;> omega
  · -- the quotient is the bound itself, so there is nothing left to round
    have hle : n / 2 ^ s ≤ m := Nat.div_le_of_le_mul (by rwa [Nat.mul_comm])
    have hq' : n / 2 ^ s = m := by omega
    rw [hq', Nat.mul_comm] at hdiv
    rw [hq', if_neg (by omega)]

namespace Format

variable {f g : Format} {e x : Nat}

/-! ## What narrowing gives -/

/-- **Narrowing gives a number up to infinity, or a quiet NaN.** -/
theorem narrow_cases (h : Wider f g) (e : Nat) (hx : x < g.unit) :
    f.narrow g e x ≤ f.top * f.unit ∨
      ∃ y < f.quietBit, f.narrow g e x = f.top * f.unit + (y + f.quietBit) := by
  have hunit := h.unit_eq
  unfold narrow
  split_ifs with htop hzero hover hnormal hfirst
  · exact .inl le_rfl
  · exact .inr ⟨_, Nat.mod_lt _ (Nat.two_pow_pos _), rfl⟩
  · exact .inl le_rfl
  · left
    apply roundShift_le
    calc (e - f.lift g) * g.unit + x ≤ (e - f.lift g + 1) * g.unit := by rw [Nat.add_mul]; omega
      _ ≤ f.top * g.unit := Nat.mul_le_mul_right _ (by omega)
      _ = f.top * f.unit * 2 ^ f.spare g := by rw [hunit, Nat.mul_assoc]
  · exact .inl (Nat.zero_le _)
  · left
    have hshift : f.spare g + 1 ≤ f.lift g + f.spare g + 1 - e := by omega
    have hle : roundShift (g.unit + x) (f.lift g + f.spare g + 1 - e) ≤ f.unit := by
      apply roundShift_le
      calc g.unit + x ≤ f.unit * 2 ^ (f.spare g + 1) := by
            rw [Nat.pow_succ, ← Nat.mul_assoc, ← hunit]
            omega
        _ ≤ f.unit * 2 ^ (f.lift g + f.spare g + 1 - e) :=
            Nat.mul_le_mul_left _ (Nat.pow_le_pow_right (by omega) hshift)
    exact hle.trans (Nat.le_mul_of_pos_left _ h.exponent)

theorem narrow_lt (h : Wider f g) (e : Nat) (hx : x < g.unit) :
    f.narrow g e x < f.signBit := by
  have hu := f.unit_pos
  have hq := unit_eq_two_mul h.fraction
  have hsign : f.signBit = f.top * f.unit + f.unit := by
    rw [signBit, exponents_eq, Nat.add_mul, Nat.one_mul]
  rcases narrow_cases h e hx with hle | ⟨y, hy, heq⟩
  · omega
  · omega

/-- **No number is narrowed to a signalling NaN.** -/
theorem quieted_narrow (h : Wider f g) (e : Nat) (hx : x < g.unit) :
    f.quieted (f.narrow g e x / f.unit) (f.narrow g e x % f.unit) = f.narrow g e x := by
  have hu := f.unit_pos
  have hq := unit_eq_two_mul h.fraction
  have hsplit : f.narrow g e x / f.unit * f.unit + f.narrow g e x % f.unit = f.narrow g e x := by
    rw [Nat.mul_comm, Nat.div_add_mod]
  rcases narrow_cases h e hx with hle | ⟨y, hy, heq⟩
  · have hfinite : ¬ (f.narrow g e x / f.unit = f.top ∧ f.narrow g e x % f.unit ≠ 0) := by
      rintro ⟨htop, hrest⟩
      rw [htop] at hsplit
      omega
    rw [quieted, if_neg hfinite, hsplit]
  · have hdiv : (f.top * f.unit + (y + f.quietBit)) / f.unit = f.top := by
      rw [Nat.mul_comm, Nat.mul_add_div hu, Nat.div_eq_of_lt (by omega), Nat.add_zero]
    have hmod : (f.top * f.unit + (y + f.quietBit)) % f.unit = y + f.quietBit := by
      rw [Nat.mul_comm, Nat.mul_add_mod, Nat.mod_eq_of_lt (by omega)]
    rw [heq, hdiv, hmod, quieted, if_pos ⟨rfl, by omega⟩, Nat.add_mod_right, Nat.mod_eq_of_lt hy]

/-! ## Numbers that come back -/

section Convert

variable {n : Nat}

theorem convert_narrow_lt (h : Wider f g) (hn : n < 2 * g.signBit) :
    g.convert f (f.narrow g) n < 2 * f.signBit := by
  have hlt := narrow_lt h (n / g.unit % g.exponents) (Nat.mod_lt n g.unit_pos)
  have hs : n / g.signBit ≤ 1 := Nat.le_of_lt_succ (Nat.div_lt_of_lt_mul (by rwa [Nat.mul_comm]))
  have := Nat.mul_le_mul_right f.signBit hs
  rw [convert]
  omega

theorem quieted_join {s m : Nat} (hm : m < f.signBit) :
    (s * f.signBit + m) / f.signBit * f.signBit +
        f.quieted ((s * f.signBit + m) / f.unit % f.exponents) ((s * f.signBit + m) % f.unit) =
      s * f.signBit + f.quieted (m / f.unit) (m % f.unit) := by
  have hsplit : m / f.unit * f.unit + m % f.unit = m := by rw [Nat.mul_comm, Nat.div_add_mod]
  have hexp : m / f.unit < f.exponents := Nat.div_lt_of_lt_mul (by rwa [Nat.mul_comm])
  obtain ⟨hsign, hexponent, hfraction⟩ := fields_join (s := s) hexp (Nat.mod_lt m f.unit_pos)
  rw [hsplit] at hsign hexponent hfraction
  rw [hsign, hexponent, hfraction]

/-- **A number that was narrowed is widened and narrowed to itself.** -/
theorem convert_narrow_returns (h : Wider f g) (n : Nat) :
    g.convert f (f.narrow g) (f.convert g (f.widen g) (g.convert f (f.narrow g) n)) =
      g.convert f (f.narrow g) n := by
  have hx := Nat.mod_lt n g.unit_pos
  rw [convert_convert h]
  unfold convert
  rw [quieted_join (narrow_lt h _ hx), quieted_narrow h _ hx]

/-- A number is widened like the number made quiet, which has the same exponent. -/
theorem exists_quieted (h : Wider f g) (e : Nat) (hx : x < f.unit) :
    ∃ x' < f.unit, f.quieted e x = e * f.unit + x' ∧ f.widen g e x' = f.widen g e x := by
  by_cases hnan : e = f.top ∧ x ≠ 0
  · have hlt : x % f.quietBit < f.quietBit := Nat.mod_lt _ (Nat.two_pow_pos _)
    have hq := unit_eq_two_mul h.fraction
    refine ⟨x % f.quietBit + f.quietBit, by omega, ?_, ?_⟩
    · rw [quieted, if_pos hnan, hnan.1]
    · rw [widen, widen, if_pos hnan.1, if_pos hnan.1, if_neg (by omega), if_neg hnan.2,
        Nat.add_mod_right, Nat.mod_mod]
  · exact ⟨x, hx, by rw [quieted, if_neg hnan], rfl⟩

/-- **A number that was widened is narrowed and widened to itself.** -/
theorem convert_widen_returns (h : Wider f g) (n : Nat) :
    f.convert g (f.widen g) (g.convert f (f.narrow g) (f.convert g (f.widen g) n)) =
      f.convert g (f.widen g) n := by
  have he := Nat.mod_lt (n / f.unit) f.exponents_pos
  obtain ⟨x, hx, hquiet, hwiden⟩ := exists_quieted h (n / f.unit % f.exponents)
    (Nat.mod_lt n f.unit_pos)
  obtain ⟨hsign, hexponent, hfraction⟩ := fields_join (s := n / f.signBit) he hx
  rw [convert_convert h, hquiet, convert, convert, hsign, hexponent, hfraction, hwiden]

end Convert

end Format

/-! ## Halves -/

namespace Half

theorem wider_single : Format.Wider .half .single := by
  constructor <;> decide

theorem toNat_ofSingle (v : UInt32) :
    (ofSingle v).toNat = Format.single.convert .half (Format.half.narrow .single) v.toNat := by
  have hlt : v.toNat < 2 * Format.single.signBit := v.toNat_lt
  exact UInt16.toNat_ofNat_of_lt (Format.convert_narrow_lt wider_single hlt)

theorem toNat_toSingle (x : UInt16) :
    (toSingle x).toNat = Format.half.convert .single (Format.half.widen .single) x.toNat := by
  have hlt : x.toNat < 2 * Format.half.signBit := x.toNat_lt
  exact UInt32.toNat_ofNat_of_lt (Format.convert_widen_lt wider_single hlt)

/-- The value of the half that is nearest to a single. -/
def rounded (v : UInt32) : UInt32 := toSingle (ofSingle v)

/-- **A single and the value it is rounded to are stored as the same half.** -/
theorem ofSingle_rounded (v : UInt32) : ofSingle (rounded v) = ofSingle v := by
  apply UInt16.toNat_inj.mp
  rw [rounded, toNat_ofSingle, toNat_toSingle, toNat_ofSingle,
    Format.convert_narrow_returns wider_single]

theorem rounded_toSingle (x : UInt16) : rounded (toSingle x) = toSingle x := by
  apply UInt32.toNat_inj.mp
  rw [rounded, toNat_toSingle, toNat_ofSingle, toNat_toSingle,
    Format.convert_widen_returns wider_single]

theorem rounded_rounded (v : UInt32) : rounded (rounded v) = rounded v := rounded_toSingle _

/-- **Exactly the values of halves are not changed by rounding.** -/
theorem rounded_eq_self_iff (v : UInt32) : rounded v = v ↔ ∃ x, toSingle x = v := by
  constructor
  · exact fun h => ⟨ofSingle v, h⟩
  · rintro ⟨x, rfl⟩
    exact rounded_toSingle x

end Half

end LayerCode
