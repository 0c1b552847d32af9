import Mathlib.Algebra.BigOperators.Group.List.Basic
import Mathlib.Algebra.Ring.Int.Defs
import LayerCode.Proofs.Tensor.Shape

/-!
# Counting the values of a shape

The axes of a shape are multiplied one by one, in 64 bits. Before each multiplication the number of
values is divided by the count so far, and an axis beyond the quotient ends the work. So the count
is never zero, and no product leaves 64 bits, whatever the axes are.

* `Counted`: what holds of the count after some axes;
* `Counted.step`, **`Counted.run`**: one axis more keeps it, and so do all axes;
* `countFrom_append`: the count comes by every prefix of the axes;
* **`make_iff_product`**: the accepted shapes, by their product in unbounded numbers.
-/

namespace LayerCode.Tensor

open Outcome

/-- The count after some axes of a tensor of `N` values: their product, at least one, and beyond the
number of values only if there are none. -/
structure Counted (N : Nat) (axes : List Int64) (n : Int64) : Prop where
  positive : ∀ d ∈ axes, 0 < d
  product : n.toInt = (axes.map Int64.toInt).prod
  one_le : 1 ≤ n.toInt
  bounded : n.toInt ≤ max 1 N

namespace Counted

variable {N : Nat} {axes : List Int64} {n d : Int64}

theorem start (N : Nat) : Counted N [] 1 where
  positive := fun _ h => absurd h List.not_mem_nil
  product := rfl
  one_le := by decide
  bounded := show (1 : Int) ≤ (max 1 N : Nat) by omega

theorem pos (h : Counted N axes n) : 0 < n := by
  have := h.one_le
  rw [Int64.lt_iff_toInt_lt]
  exact this

/-- An axis within the quotient is multiplied without leaving 64 bits. -/
theorem toInt_mul (hN : N < 2 ^ 63) (h : Counted N axes n) (hd : 0 < d)
    (hle : ¬ Int64.ofNat N / n < d) : (n * d).toInt = n.toInt * d.toInt ∧ n.toInt * d.toInt ≤ N := by
  obtain ⟨en, -⟩ := toInt_eq_toNat h.pos
  obtain ⟨ed, -⟩ := toInt_eq_toNat hd
  rw [div_lt_iff hN h.pos hd, not_lt] at hle
  obtain ⟨hmul, hpos⟩ := toNat_mul h.pos hd (by omega)
  rw [(toInt_eq_toNat hpos).1, hmul, en, ed]
  exact ⟨Int.natCast_mul _ _, by exact_mod_cast hle⟩

/-- **One axis more keeps the count.** -/
theorem step (hN : N < 2 ^ 63) (h : Counted N axes n) (hd : 0 < d)
    (hle : ¬ Int64.ofNat N / n < d) : Counted N (axes ++ [d]) (n * d) := by
  obtain ⟨hmul, hbound⟩ := h.toInt_mul hN hd hle
  have hdpos : 0 < d.toInt := by simpa [Int64.lt_iff_toInt_lt] using hd
  refine ⟨?_, ?_, ?_, ?_⟩
  · simpa [or_imp, forall_and] using ⟨h.positive, hd⟩
  · rw [hmul, h.product, List.map_append, List.prod_append]
    simp
  · rw [hmul]
    exact Int.mul_pos h.one_le hdpos
  · rw [hmul]
    omega

/-- **All axes keep the count**, if none of them ends the work. -/
theorem run (hN : N < 2 ^ 63) (h : Counted N axes n) {rest : List Int64} {m : Int64}
    (hm : countFrom (.ofNat N) n rest = .ok m) : Counted N (axes ++ rest) m := by
  induction rest generalizing axes n with
  | nil =>
    rw [countFrom, Except.ok.injEq] at hm
    rw [← hm, List.append_nil]
    exact h
  | cons d ds ih =>
    rw [countFrom] at hm
    split_ifs at hm with hd hlt
    have hstep := h.step hN (Int64.not_le.mp hd) hlt
    have hrest := ih hstep hm
    rwa [List.append_assoc] at hrest

end Counted

/-- The count comes by every prefix of the axes, or ends the work there. -/
theorem countFrom_append (given n : Int64) (axes rest : List Int64) :
    countFrom given n (axes ++ rest) =
      countFrom given n axes >>= fun m => countFrom given m rest := by
  induction axes generalizing n with
  | nil => rfl
  | cons d ds ih =>
    rw [List.cons_append, countFrom, countFrom]
    split_ifs
    · rfl
    · rfl
    · exact ih (n * d)

theorem volume_extents {shape : List Int64} (h : ∀ d ∈ shape, 0 < d) :
    (volume (extents shape) : Int) = (shape.map Int64.toInt).prod := by
  induction shape with
  | nil => rfl
  | cons d ds ih =>
    rw [List.forall_mem_cons] at h
    rw [List.map_cons, List.prod_cons, ← ih h.2, (toInt_eq_toNat h.1).1]
    exact Int.natCast_mul _ _

/-- **A tensor is accepted if and only if its axes are positive and their product, in unbounded
numbers, is the number of its values.** After every prefix of the axes that does not end the work,
the count is the product of the prefix, is not zero, and is at most the number of values, or one; the
next product is computed only if it does not leave 64 bits. -/
theorem make_iff_product (name : String) (shape : List Int64) (data : Array UInt32)
    (hsize : data.size < 2 ^ 63) :
    ((∃ t, make name shape data = .ok t) ↔
      shape ≠ [] ∧ (∀ d ∈ shape, 0 < d) ∧ (shape.map Int64.toInt).prod = data.size) ∧
    (∀ t, make name shape data = .ok t → t = ⟨name, shape, data⟩) ∧
    ∀ axes rest n, shape = axes ++ rest → countFrom (.ofNat data.size) 1 axes = .ok n →
      countFrom (.ofNat data.size) 1 shape = countFrom (.ofNat data.size) n rest ∧
      1 ≤ n.toInt ∧ n.toInt ≤ max 1 data.size ∧ n.toInt = (axes.map Int64.toInt).prod ∧
      (Int64.ofNat data.size / n).toInt = data.size / n.toInt ∧
      ∀ d later, rest = d :: later → 0 < d → ¬ Int64.ofNat data.size / n < d →
        (n * d).toInt = n.toInt * d.toInt := by
  refine ⟨⟨?_, ?_⟩, fun t ht => (make_eq_ok_iff.mp ht).1, ?_⟩
  · rintro ⟨t, ht⟩
    obtain ⟨rfl, hv⟩ := make_eq_ok_iff.mp ht
    refine ⟨hv.axes, hv.positive, ?_⟩
    rw [← volume_extents hv.positive]
    exact congrArg Nat.cast hv.count
  · rintro ⟨haxes, hpos, hprod⟩
    rw [← volume_extents hpos, Int.natCast_inj] at hprod
    exact ⟨_, make_eq_ok_iff.mpr ⟨rfl, haxes, hpos, hprod, hsize⟩⟩
  · rintro axes rest n rfl hn
    have hc := (Counted.start data.size).run hsize hn
    rw [List.nil_append] at hc
    refine ⟨?_, hc.one_le, hc.bounded, hc.product, ?_, fun d later _ hd hle => ?_⟩
    · rw [countFrom_append, hn, ok_bind]
    · have hne : n ≠ -1 := by
        rintro rfl
        exact absurd hc.pos (by decide)
      rw [Int64.toInt_div_of_ne_right _ _ hne, Int64.toInt_ofNat_of_lt hsize,
        Int.tdiv_eq_ediv_of_nonneg (Int.natCast_nonneg _)]
    · exact (hc.toInt_mul hsize hd hle).1

/-- Four axes whose product is zero in 64 bits do not hold no values, and three axes hold as many
values as their product says. -/
theorem make_iff_product_wrapping :
    (#[] : Array UInt32).size < 2 ^ 63 ∧ (65536 * 65536 * 65536 * 65536 : Int64) = 0 ∧
      (¬ ∃ t, make "w" [65536, 65536, 65536, 65536] #[] = .ok t) ∧
      (Array.replicate 16 0 : Array UInt32).size < 2 ^ 63 ∧
      ∃ t, make "w" [1, 4, 4] (Array.replicate 16 0) = .ok t := by
  have hnone : (#[] : Array UInt32).size < 2 ^ 63 := by decide
  have hsome : (Array.replicate 16 0 : Array UInt32).size < 2 ^ 63 := by decide
  refine ⟨hnone, by decide, fun hmake => ?_, hsome, ?_⟩
  · obtain ⟨-, -, hprod⟩ := (make_iff_product "w" _ _ hnone).1.mp hmake
    exact absurd hprod (by decide)
  · exact (make_iff_product "w" _ _ hsome).1.mpr ⟨by decide, by simp, by decide⟩

end LayerCode.Tensor
