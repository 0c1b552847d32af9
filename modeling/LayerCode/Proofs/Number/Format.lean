import Mathlib.Algebra.GroupWithZero.Nat
import Mathlib.Tactic.Ring
import LayerCode.Number.Format

/-!
# Numbers taken to a wider format and back

A number that was widened is narrowed to itself: no bit of its fraction is lost, so nothing is
rounded. Only a signalling NaN does not come back, as both conversions make it quiet.

* `Format.Wider`: one format can hold the numbers of another, the smallest ones with a leading one;
* `roundShift_mul`: a multiple of the power of two is not rounded;
* `Format.fields_join`: the sign, the exponent and the fraction of a number;
* `Format.Returns`, **`Format.exists_returns`**: exponent and fraction there and back;
* **`Format.convert_convert`**: a number widened and narrowed again.
-/

namespace LayerCode

theorem roundShift_mul (q s : Nat) : roundShift (q * 2 ^ s) s = q := by
  have hpos : 0 < 2 ^ s := Nat.two_pow_pos s
  have hdiv : q * 2 ^ s / Nat.pow 2 s = q := Nat.mul_div_cancel q hpos
  have hmod : q * 2 ^ s % Nat.pow 2 s = 0 := Nat.mul_mod_left q (2 ^ s)
  have hunit : ¬ (Nat.pow 2 s < 2 * 0 ∨ 2 * 0 = Nat.pow 2 s ∧ q % 2 = 1) := by
    have : Nat.pow 2 s = 2 ^ s := rfl
    omega
  simp only [roundShift, hdiv, hmod, if_neg hunit]

namespace Format

variable {f g : Format}

/-- Numbers of the first format fit into the second, and those without a leading one have one
there. -/
structure Wider (f g : Format) : Prop where
  exponent : 0 < f.top
  fraction : 0 < f.fractionBits
  spare : f.fractionBits ≤ g.fractionBits
  lift : f.fractionBits ≤ f.lift g
  top : f.top + f.lift g ≤ g.top

theorem unit_pos (f : Format) : 0 < f.unit := Nat.two_pow_pos f.fractionBits

theorem exponents_pos (f : Format) : 0 < f.exponents := Nat.two_pow_pos f.exponentBits

theorem exponents_eq (f : Format) : f.exponents = f.top + 1 :=
  (Nat.sub_add_cancel f.exponents_pos).symm

theorem unit_eq_two_mul (h : 0 < f.fractionBits) : f.unit = 2 * f.quietBit := by
  obtain ⟨k, hk⟩ := Nat.exists_eq_succ_of_ne_zero h.ne'
  simp only [unit, quietBit, hk, Nat.pow_eq, Nat.succ_sub_one, Nat.pow_succ, Nat.mul_comm]

theorem Wider.unit_eq (h : Wider f g) : g.unit = f.unit * 2 ^ f.spare g := by
  have hbits := Nat.add_sub_of_le h.spare
  show 2 ^ g.fractionBits = 2 ^ f.fractionBits * 2 ^ f.spare g
  rw [← Nat.pow_add, Format.spare, hbits]

/-! ## Sign, exponent, fraction -/

theorem fields_join {s e x : Nat} (he : e < f.exponents) (hx : x < f.unit) :
    (s * f.signBit + (e * f.unit + x)) / f.signBit = s ∧
      (s * f.signBit + (e * f.unit + x)) / f.unit % f.exponents = e ∧
      (s * f.signBit + (e * f.unit + x)) % f.unit = x := by
  have hu := f.unit_pos
  have hlt : e * f.unit + x < f.signBit := by
    calc e * f.unit + x < (e + 1) * f.unit := by rw [Nat.add_mul]; omega
      _ ≤ f.exponents * f.unit := Nat.mul_le_mul_right _ he
  have hsplit : s * f.signBit + (e * f.unit + x) = x + f.unit * (e + f.exponents * s) := by
    rw [signBit]
    ring
  refine ⟨?_, ?_, ?_⟩
  · rw [Nat.add_comm, Nat.add_mul_div_right _ _ (by omega), Nat.div_eq_of_lt hlt, Nat.zero_add]
  · rw [hsplit, Nat.add_mul_div_left _ _ hu, Nat.div_eq_of_lt hx, Nat.zero_add,
      Nat.add_mul_mod_self_left, Nat.mod_eq_of_lt he]
  · rw [hsplit, Nat.add_mul_mod_self_left, Nat.mod_eq_of_lt hx]

theorem join_fields (n : Nat) :
    n / f.signBit * f.signBit + (n / f.unit % f.exponents * f.unit + n % f.unit) = n := by
  have hhigh : n / f.signBit = n / f.unit / f.exponents := by
    rw [signBit, Nat.mul_comm, Nat.div_div_eq_div_mul]
  calc n / f.signBit * f.signBit + (n / f.unit % f.exponents * f.unit + n % f.unit)
      = f.unit * (f.exponents * (n / f.unit / f.exponents) + n / f.unit % f.exponents) +
          n % f.unit := by
        rw [hhigh, signBit]
        ring
    _ = n := by rw [Nat.div_add_mod, Nat.div_add_mod]

/-! ## There and back -/

/-- The number without sign that has this exponent and fraction, with a NaN made quiet. -/
def quieted (f : Format) (e x : Nat) : Nat :=
  if e = f.top ∧ x ≠ 0 then f.top * f.unit + (x % f.quietBit + f.quietBit) else e * f.unit + x

section Widen

variable {e x : Nat}

/-- The number becomes one with exponent `e'` and fraction `x'` when it is widened, and that one is
narrowed to the number made quiet. -/
structure Returns (f g : Format) (e x e' x' : Nat) : Prop where
  widen : f.widen g e x = e' * g.unit + x'
  exponent : e' < g.exponents
  fraction : x' < g.unit
  narrow : f.narrow g e' x' = f.quieted e x

theorem returns_infinity (f g : Format) : Returns f g f.top 0 g.top 0 where
  widen := by simp [Format.widen]
  exponent := by rw [exponents_eq]; omega
  fraction := g.unit_pos
  narrow := by simp [Format.narrow, quieted]

theorem returns_nan (h : Wider f g) (hx : x ≠ 0) :
    Returns f g f.top x g.top ((x % f.quietBit + f.quietBit) * 2 ^ f.spare g) := by
  have hq : 0 < f.quietBit := Nat.two_pow_pos _
  have hs : 0 < 2 ^ f.spare g := Nat.two_pow_pos _
  have hlt : x % f.quietBit < f.quietBit := Nat.mod_lt _ hq
  refine ⟨?_, ?_, ?_, ?_⟩
  · simp only [Format.widen, if_pos, if_neg hx]
    rfl
  · rw [exponents_eq]
    omega
  · rw [h.unit_eq, unit_eq_two_mul h.fraction]
    exact Nat.mul_lt_mul_of_pos_right (by omega) hs
  · have hne : (x % f.quietBit + f.quietBit) * 2 ^ f.spare g ≠ 0 :=
      (Nat.mul_pos (by omega) hs).ne'
    have hdiv : (x % f.quietBit + f.quietBit) * 2 ^ f.spare g / Nat.pow 2 (f.spare g) %
        f.quietBit = x % f.quietBit := by
      rw [Nat.pow_eq, Nat.mul_div_cancel _ hs, Nat.add_mod_right, Nat.mod_mod]
    rw [Format.narrow, if_pos rfl, if_neg hne, hdiv, quieted, if_pos ⟨rfl, hx⟩]

theorem returns_zero (h : Wider f g) : Returns f g 0 0 0 0 := by
  have ht := h.exponent
  have hgt : 0 < g.top := by have := h.top; omega
  refine ⟨?_, ?_, g.unit_pos, ?_⟩
  · rw [Format.widen, if_neg ht.ne, if_pos rfl, if_pos rfl, Nat.zero_mul]
  · rw [exponents_eq]
    omega
  · rw [Format.narrow, if_neg hgt.ne, if_neg (by omega), if_neg (by omega), if_pos rfl, quieted,
      if_neg (by simp), Nat.zero_mul]

/-- A number without a leading one has one in the wider format, and loses it again. -/
theorem returns_subnormal (h : Wider f g) (hx : x ≠ 0) (hlt : x < f.unit) :
    Returns f g 0 x (x.log2 + f.lift g + 1 - f.fractionBits)
      ((x - 2 ^ x.log2) * 2 ^ (g.fractionBits - x.log2)) := by
  have hle : 2 ^ x.log2 ≤ x := Nat.log2_self_le hx
  have hsucc : x < 2 ^ (x.log2 + 1) := Nat.lt_log2_self
  have hlog : x.log2 < f.fractionBits := (Nat.log2_lt hx).mpr hlt
  obtain ⟨ht, -, hspare, hlift, htop⟩ := h
  have hunit : g.unit = 2 ^ x.log2 * 2 ^ (g.fractionBits - x.log2) := by
    rw [← Nat.pow_add, Nat.add_sub_of_le (by omega)]
    rfl
  refine ⟨?_, ?_, ?_, ?_⟩
  · rw [Format.widen, if_neg ht.ne, if_pos rfl, if_neg hx]
    rfl
  · rw [exponents_eq]
    omega
  · rw [hunit]
    exact Nat.mul_lt_mul_of_pos_right (by rw [Nat.pow_succ] at hsucc; omega) (Nat.two_pow_pos _)
  · have hjoin : g.unit + (x - 2 ^ x.log2) * 2 ^ (g.fractionBits - x.log2) =
        x * 2 ^ (g.fractionBits - x.log2) := by
      rw [hunit, ← Nat.add_mul, Nat.add_sub_of_le hle]
    have hshift : f.lift g + f.spare g + 1 - (x.log2 + f.lift g + 1 - f.fractionBits) =
        g.fractionBits - x.log2 := by
      rw [Format.spare]
      omega
    rw [Format.narrow, if_neg (by omega), if_neg (by omega), if_neg (by omega), if_neg (by omega),
      hjoin, hshift, roundShift_mul, quieted, if_neg (by omega), Nat.zero_mul, Nat.zero_add]

theorem returns_normal (h : Wider f g) (he : e ≠ 0) (het : e < f.top) (hlt : x < f.unit) :
    Returns f g e x (e + f.lift g) (x * 2 ^ f.spare g) := by
  have htop := h.top
  refine ⟨?_, ?_, ?_, ?_⟩
  · rw [Format.widen, if_neg het.ne, if_neg he]
    rfl
  · rw [exponents_eq]
    omega
  · rw [h.unit_eq]
    exact Nat.mul_lt_mul_of_pos_right hlt (Nat.two_pow_pos _)
  · have hjoin : (e + f.lift g - f.lift g) * g.unit + x * 2 ^ f.spare g =
        (e * f.unit + x) * 2 ^ f.spare g := by
      rw [Nat.add_sub_cancel, h.unit_eq, Nat.add_mul, Nat.mul_assoc]
    rw [Format.narrow, if_neg (by omega), if_neg (by omega), if_pos (by omega), hjoin,
      roundShift_mul, quieted, if_neg (by omega)]

/-- **Every number returns from the wider format, a NaN made quiet.** -/
theorem exists_returns (h : Wider f g) (he : e < f.exponents) (hx : x < f.unit) :
    ∃ e' x', Returns f g e x e' x' := by
  rw [exponents_eq] at he
  by_cases htop : e = f.top
  · subst htop
    by_cases hzero : x = 0
    · subst hzero
      exact ⟨_, _, returns_infinity f g⟩
    · exact ⟨_, _, returns_nan h hzero⟩
  · by_cases hfirst : e = 0
    · subst hfirst
      by_cases hzero : x = 0
      · subst hzero
        exact ⟨_, _, returns_zero h⟩
      · exact ⟨_, _, returns_subnormal h hzero hx⟩
    · exact ⟨_, _, returns_normal h hfirst (by omega) hx⟩

end Widen

theorem convert_widen_lt (h : Wider f g) {n : Nat} (hn : n < 2 * f.signBit) :
    f.convert g (f.widen g) n < 2 * g.signBit := by
  have he : n / f.unit % f.exponents < f.exponents := Nat.mod_lt _ f.exponents_pos
  obtain ⟨e', x', hw, he', hx', -⟩ := exists_returns h he (Nat.mod_lt n f.unit_pos)
  have hs : n / f.signBit ≤ 1 := Nat.le_of_lt_succ (Nat.div_lt_of_lt_mul (by rwa [Nat.mul_comm]))
  rw [convert, hw]
  calc n / f.signBit * g.signBit + (e' * g.unit + x')
      < 1 * g.signBit + (e' + 1) * g.unit := by
        have := Nat.mul_le_mul_right g.signBit hs
        rw [Nat.add_mul]
        omega
    _ ≤ 1 * g.signBit + g.exponents * g.unit :=
        Nat.add_le_add_left (Nat.mul_le_mul_right _ he') _
    _ = 2 * g.signBit := by
        rw [signBit]
        omega

/-- **A number is converted to a wider format and back.** It keeps its sign, and its exponent and
fraction too, but for a NaN made quiet. -/
theorem convert_convert (h : Wider f g) (n : Nat) :
    g.convert f (f.narrow g) (f.convert g (f.widen g) n) =
      n / f.signBit * f.signBit + f.quieted (n / f.unit % f.exponents) (n % f.unit) := by
  have he : n / f.unit % f.exponents < f.exponents := Nat.mod_lt _ f.exponents_pos
  obtain ⟨e', x', hw, he', hx', hn⟩ := exists_returns h he (Nat.mod_lt n f.unit_pos)
  obtain ⟨hsign, hexponent, hfraction⟩ := fields_join (s := n / f.signBit) he' hx'
  rw [convert, convert, hw, hsign, hexponent, hfraction, hn]

end Format

end LayerCode
