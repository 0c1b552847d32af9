import Mathlib.Algebra.GroupWithZero.Nat
import Mathlib.Data.Nat.Basic
import LayerCode.Proofs.Outcome
import LayerCode.Tensor.Reorder

/-!
# Shapes that hold their values

The axes of a shape are multiplied in 64 bits, and the product is compared with the number of values
before it grows. So the product that is computed is the one of the natural numbers.

* `Tensor.Valid`: a tensor with positive axes that holds exactly its values;
* `countFrom_eq_ok`, `countFrom_of_le`: what the multiplication gives, and when it goes through;
* **`make_eq_ok_iff`**: the tensors that are accepted are the valid ones.
-/

namespace LayerCode.Tensor

open Outcome

/-- The tensor has axes, they are positive, and they hold exactly its values. -/
structure Valid (t : Tensor) : Prop where
  axes : t.shape ≠ []
  positive : ∀ d ∈ t.shape, 0 < d
  count : volume (extents t.shape) = t.data.size
  countable : t.data.size < 2 ^ 63

/-! ## Products in 64 bits -/

theorem toInt_eq_toNat {d : Int64} (h : 0 < d) :
    d.toInt = d.toNatClampNeg ∧ 0 < d.toNatClampNeg := by
  have h0 : 0 < d.toInt := by simpa [Int64.lt_iff_toInt_lt] using h
  rw [← Int64.toNat_toInt]
  omega

theorem toNat_mul {n d : Int64} (hn : 0 < n) (hd : 0 < d)
    (h : n.toNatClampNeg * d.toNatClampNeg < 2 ^ 63) :
    (n * d).toNatClampNeg = n.toNatClampNeg * d.toNatClampNeg ∧ 0 < n * d := by
  obtain ⟨en, pn⟩ := toInt_eq_toNat hn
  obtain ⟨ed, pd⟩ := toInt_eq_toNat hd
  have hpos : 0 < n.toNatClampNeg * d.toNatClampNeg := Nat.mul_pos pn pd
  have hint : (n * d).toInt = (n.toNatClampNeg * d.toNatClampNeg : Nat) := by
    rw [Int64.toInt_mul, en, ed, ← Int.natCast_mul, Int.bmod_eq_of_le] <;> omega
  refine ⟨?_, ?_⟩
  · rw [← Int64.toNat_toInt, hint, Int.toNat_natCast]
  · rw [Int64.lt_iff_toInt_lt, hint]
    exact Int.ofNat_lt.mpr hpos

/-- The quotient is compared with an axis as the product would be with the number of values. -/
theorem div_lt_iff {N : Nat} (hN : N < 2 ^ 63) {n d : Int64} (hn : 0 < n) (hd : 0 < d) :
    Int64.ofNat N / n < d ↔ N < n.toNatClampNeg * d.toNatClampNeg := by
  obtain ⟨en, pn⟩ := toInt_eq_toNat hn
  obtain ⟨ed, -⟩ := toInt_eq_toNat hd
  -- Only a division by minus one can leave the range.
  have hne : n ≠ -1 := by
    rintro rfl
    exact absurd hn (by decide)
  rw [Int64.lt_iff_toInt_lt, Int64.toInt_div_of_ne_right _ _ hne, Int64.toInt_ofNat_of_lt hN, en,
    ed, ← Int.ofNat_tdiv, Int.ofNat_lt, Nat.div_lt_iff_lt_mul pn, Nat.mul_comm]

/-! ## Counting -/

theorem volume_pos {shape : List Int64} (h : ∀ d ∈ shape, 0 < d) : 0 < volume (extents shape) := by
  induction shape with
  | nil => exact Nat.one_pos
  | cons d ds ih =>
    have hd := (toInt_eq_toNat (h d List.mem_cons_self)).2
    exact Nat.mul_pos hd (ih fun e he => h e (List.mem_cons_of_mem d he))

theorem countFrom_eq_ok {N : Nat} (hN : N < 2 ^ 63) {shape : List Int64} {n m : Int64} (hn : 0 < n)
    (h : countFrom (.ofNat N) n shape = .ok m) :
    (∀ d ∈ shape, 0 < d) ∧ m.toNatClampNeg = n.toNatClampNeg * volume (extents shape) := by
  induction shape generalizing n with
  | nil =>
    rw [countFrom, Except.ok.injEq] at h
    simp [← h, extents, volume]
  | cons d ds ih =>
    rw [countFrom] at h
    split_ifs at h with hd hlt
    have hd : 0 < d := by simpa using hd
    have hle : n.toNatClampNeg * d.toNatClampNeg ≤ N := by
      rw [div_lt_iff hN hn hd] at hlt
      omega
    obtain ⟨hmul, hpos⟩ := toNat_mul hn hd (by omega)
    obtain ⟨hds, hm⟩ := ih hpos h
    refine ⟨by simpa [hd] using hds, ?_⟩
    rw [hm, hmul, Nat.mul_assoc]
    rfl

theorem countFrom_of_le {N : Nat} (hN : N < 2 ^ 63) {shape : List Int64} {n : Int64} (hn : 0 < n)
    (hs : ∀ d ∈ shape, 0 < d) (h : n.toNatClampNeg * volume (extents shape) ≤ N) :
    ∃ m, countFrom (.ofNat N) n shape = .ok m := by
  induction shape generalizing n with
  | nil => exact ⟨n, rfl⟩
  | cons d ds ih =>
    have hd : 0 < d := hs d List.mem_cons_self
    have hds : ∀ e ∈ ds, 0 < e := fun e he => hs e (List.mem_cons_of_mem d he)
    rw [extents, List.map_cons, volume, ← Nat.mul_assoc] at h
    have hle : n.toNatClampNeg * d.toNatClampNeg ≤ N :=
      le_trans (Nat.le_mul_of_pos_right _ (volume_pos hds)) h
    obtain ⟨hmul, hpos⟩ := toNat_mul hn hd (by omega)
    obtain ⟨m, hm⟩ := ih hpos hds (by rw [hmul]; exact h)
    refine ⟨m, ?_⟩
    rw [countFrom, if_neg (by simpa using hd), if_neg (by rw [div_lt_iff hN hn hd]; omega), hm]

/-- **The accepted tensors are the valid ones.** -/
theorem make_eq_ok_iff {name : String} {shape : List Int64} {data : Array UInt32} {t : Tensor} :
    make name shape data = .ok t ↔ t = ⟨name, shape, data⟩ ∧ t.Valid := by
  constructor
  · intro h
    unfold make at h
    split at h
    · simp at h
    · simp at h
    · next n hn =>
      split_ifs at h with hc
      obtain ⟨hshape, hsize⟩ : shape ≠ [] ∧ n.toNatClampNeg = data.size := by simpa using hc
      have hN : data.size < 2 ^ 63 := hsize ▸ Int64.toNatClampNeg_lt n
      obtain ⟨hpos, hvol⟩ := countFrom_eq_ok hN (by decide) hn
      obtain rfl := Except.ok.inj h
      refine ⟨rfl, hshape, hpos, ?_, hN⟩
      rw [← hsize, hvol]
      exact (Nat.one_mul _).symm
  · rintro ⟨rfl, hv⟩
    have hcount : volume (extents shape) = data.size := hv.count
    have hone : (1 : Int64).toNatClampNeg * volume (extents shape) = data.size := by
      rw [hcount]
      exact Nat.one_mul _
    have hpos : (0 : Int64) < 1 := by decide
    obtain ⟨m, hm⟩ := countFrom_of_le hv.countable hpos hv.positive (Nat.le_of_eq hone)
    have hvol := (countFrom_eq_ok hv.countable hpos hm).2
    have hc : ¬ (shape = [] ∨ m.toNatClampNeg ≠ data.size) := by
      rw [hvol, hone]
      simpa using hv.axes
    simp only [make, hm, if_neg hc]

end LayerCode.Tensor
