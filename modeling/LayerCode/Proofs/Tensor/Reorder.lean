import Mathlib.Algebra.BigOperators.Group.List.Basic
import Mathlib.Data.List.Forall2
import Mathlib.Data.List.Nodup
import Mathlib.Data.List.Perm.Subperm
import LayerCode.Proofs.Tensor.Quiet
import LayerCode.Proofs.Tensor.Shape

/-!
# Where reordered values come from

The walk by strides is compared with row-major offsets: the value at an index of the source is found
at the index with its places reordered.

* `offset`, `InRange`: the row-major offset of an index, and the indices of a shape;
* `Permuted`, `Transposed`: what the contents of a reordered tensor are, value by value;
* `getElem?_offsets`: the place that a walk visits at an index;
* **`permute_eq_ok`**, **`transpose_eq_ok`**: reordering goes through and gives those contents;
* `Permuted.valid`, `Transposed.valid`: and the tensor stays valid.
-/

namespace LayerCode.Tensor

open Outcome

/-! ## Indices -/

/-- The row-major offset of an index in a shape. -/
def offset : List Nat → List Nat → Nat
  | _ :: ds, i :: is => i * volume ds + offset ds is
  | _, _ => 0

/-- The index is one of the shape's. -/
def InRange (shape index : List Nat) : Prop := List.Forall₂ (· < ·) index shape

/-- The contents have the axes of the tensor reordered: the value at an index of the tensor stands
at the index whose place `k` is place `axes[k]` of the source. -/
structure Permuted (axes : List Int64) (t : Tensor) (l : Layout) : Prop where
  shape : l.shape = pick axes t.shape
  size : l.data.size = t.data.size
  moved : ∀ index, InRange (extents t.shape) index →
    l.data[offset (extents l.shape) (pick axes index)]? = t.data[offset (extents t.shape) index]?

/-- The contents have the rows of the tensor as columns, with every NaN made quiet. -/
structure Transposed (t : Tensor) (l : Layout) : Prop where
  shape : ∃ rows cols, t.shape = [rows, cols] ∧ l.shape = [cols, rows]
  size : l.data.size = t.data.size
  moved : ∀ i j, InRange (extents t.shape) [i, j] →
    l.data[offset (extents l.shape) [j, i]]? = (t.data[offset (extents t.shape) [i, j]]?).map quiet

theorem offset_lt {shape index : List Nat} (h : InRange shape index) :
    offset shape index < volume shape := by
  induction h with
  | nil => exact Nat.one_pos
  | @cons i d is ds hi _ ih =>
    rw [offset, volume]
    calc i * volume ds + offset ds is < i * volume ds + volume ds := by omega
      _ = (i + 1) * volume ds := by rw [Nat.add_mul, Nat.one_mul]
      _ ≤ d * volume ds := Nat.mul_le_mul_right _ hi

/-! ## Walks -/

/-- How far an index goes along strides. -/
def reach (index strides : List Nat) : Nat := (List.zipWith (· * ·) index strides).sum

theorem length_flatMap_range {α : Type} {f : Nat → List α} {len : Nat} (n : Nat)
    (h : ∀ i, (f i).length = len) : ((List.range n).flatMap f).length = n * len := by
  simp [List.length_flatMap, h]

theorem getElem?_flatMap_range {α : Type} {f : Nat → List α} {len n i j : Nat}
    (h : ∀ i, (f i).length = len) (hi : i < n) (hj : j < len) :
    ((List.range n).flatMap f)[i * len + j]? = (f i)[j]? := by
  induction n with
  | zero => omega
  | succ n ih =>
    rw [List.range_succ, List.flatMap_append, List.flatMap_singleton]
    by_cases hin : i < n
    · have hlt : i * len + j < n * len := by
        calc i * len + j < i * len + len := by omega
          _ = (i + 1) * len := by rw [Nat.add_mul, Nat.one_mul]
          _ ≤ n * len := Nat.mul_le_mul_right _ hin
      rw [List.getElem?_append_left (by rwa [length_flatMap_range n h]), ih hin]
    · obtain rfl : i = n := by omega
      rw [List.getElem?_append_right (by rw [length_flatMap_range i h]; omega),
        length_flatMap_range i h, Nat.add_sub_cancel_left]

theorem length_offsets (walk : List (Nat × Nat)) :
    (offsets walk).length = volume (walk.map Prod.fst) := by
  induction walk with
  | nil => rfl
  | cons w walk ih =>
    rw [offsets, List.map_cons, volume]
    exact length_flatMap_range _ fun i => by rw [List.length_map, ih]

/-- **A walk visits, at an index, the place that the index reaches along its strides.** -/
theorem getElem?_offsets {walk : List (Nat × Nat)} {index : List Nat}
    (h : InRange (walk.map Prod.fst) index) :
    (offsets walk)[offset (walk.map Prod.fst) index]? = some (reach index (walk.map Prod.snd)) := by
  induction walk generalizing index with
  | nil =>
    rw [InRange, List.map_nil, List.forall₂_nil_right_iff] at h
    subst h
    rfl
  | cons w walk ih =>
    rw [InRange, List.map_cons, List.forall₂_cons_right_iff] at h
    obtain ⟨i, is, hi, his, rfl⟩ := h
    have hlen : ∀ k, ((offsets walk).map (k * w.2 + ·)).length = volume (walk.map Prod.fst) :=
      fun k => by rw [List.length_map, length_offsets]
    rw [offsets, List.map_cons, offset, getElem?_flatMap_range hlen hi (offset_lt his),
      List.getElem?_map, ih his]
    rfl

theorem reach_strides {shape index : List Nat} (h : index.length = shape.length) :
    reach index (strides shape) = offset shape index := by
  induction shape generalizing index with
  | nil =>
    obtain rfl := List.length_eq_zero_iff.mp h
    rfl
  | cons d ds ih =>
    obtain ⟨i, is, rfl⟩ := List.exists_cons_of_length_eq_add_one h
    rw [offset, ← ih (by simpa using h)]
    rfl

/-! ## Picking places -/

section Pick

variable {α β : Type} {axes : List Int64}

theorem pick_map (f : α → β) (xs : List α) : pick axes (xs.map f) = (pick axes xs).map f := by
  simp only [pick, List.getElem?_map, List.map_filterMap]

theorem mem_of_mem_pick {x : α} {xs : List α} (h : x ∈ pick axes xs) : x ∈ xs := by
  obtain ⟨a, -, ha⟩ := List.mem_filterMap.mp h
  exact List.mem_of_getElem? ha

theorem filterMap_range_getElem? (xs : List α) :
    (List.range xs.length).filterMap (xs[·]?) = xs := by
  induction xs with
  | nil => rfl
  | cons x xs ih =>
    rw [List.length_cons, List.range_succ_eq_map, List.filterMap_cons, List.filterMap_map]
    exact congrArg (x :: ·) ih

/-- The places of a permutation are the numbers below the rank. -/
theorem axes_perm_range {rank : Nat} (h : isPermutation rank axes = true) :
    (axes.map Int64.toNatClampNeg).Perm (List.range rank) := by
  simp only [isPermutation, Bool.and_eq_true, beq_iff_eq, List.all_eq_true, decide_eq_true_eq] at h
  obtain ⟨⟨hlen, hall⟩, hnodup⟩ := h
  have hinj : (axes.map Int64.toNatClampNeg).Nodup := by
    refine List.Nodup.map_on (fun a ha b hb hab => ?_) hnodup
    have ha0 : 0 ≤ a.toInt := by simpa [Int64.le_iff_toInt_le] using (hall a ha).1
    have hb0 : 0 ≤ b.toInt := by simpa [Int64.le_iff_toInt_le] using (hall b hb).1
    rw [← Int64.toNat_toInt, ← Int64.toNat_toInt] at hab
    exact Int64.toInt_inj.mp (by omega)
  have hsub : axes.map Int64.toNatClampNeg ⊆ List.range rank := by
    intro k hk
    obtain ⟨a, ha, rfl⟩ := List.mem_map.mp hk
    exact List.mem_range.mpr (hall a ha).2
  refine (List.subperm_of_subset hinj hsub).perm_of_length_le ?_
  rw [List.length_range, List.length_map, hlen]

theorem pick_perm {xs : List α} (h : isPermutation xs.length axes = true) :
    (pick axes xs).Perm xs := by
  have hp := (axes_perm_range h).filterMap (xs[·]?)
  rwa [filterMap_range_getElem?, List.filterMap_map] at hp

end Pick

theorem volume_eq_prod (shape : List Nat) : volume shape = shape.prod := by
  induction shape with
  | nil => rfl
  | cons d ds ih => rw [volume, ih, List.prod_cons]

/-! ## Reordered tensors -/

theorem holds_of_valid {t : Tensor} (h : t.Valid) : holds t.shape t.data.size = true := by
  simp only [holds, Bool.and_eq_true, List.all_eq_true, decide_eq_true_eq, beq_iff_eq]
  exact ⟨fun d hd => Int64.le_of_lt (h.positive d hd), h.count⟩

theorem length_strides (shape : List Nat) : (strides shape).length = shape.length := by
  induction shape with
  | nil => rfl
  | cons d ds ih => rw [strides, List.length_cons, List.length_cons, ih]

/-- The index, the extents and the strides of a shape, place by place. -/
theorem exists_places {shape index : List Nat} (h : InRange shape index) :
    ∃ places : List (Nat × Nat × Nat), index = places.map Prod.fst ∧
      shape.zip (strides shape) = places.map Prod.snd ∧ ∀ p ∈ places, p.1 < p.2.1 := by
  have hil := List.Forall₂.length_eq h
  refine ⟨index.zip (shape.zip (strides shape)), ?_, ?_, fun p hp => ?_⟩
  · rw [List.map_fst_zip]
    simp [length_strides, hil]
  · rw [List.map_snd_zip]
    simp [length_strides, hil]
  · have hpair : (p.1, p.2.1) ∈ index.zip shape := by
      have := List.mem_map_of_mem (f := Prod.map id Prod.fst) hp
      rwa [← List.zip_map_right, List.map_fst_zip (by rw [length_strides])] at this
    exact List.forall₂_iff_zip.mp h |>.2 hpair

section Permute

variable {t : Tensor} {axes : List Int64}

theorem length_eq_of_isPermutation {rank : Nat} (h : isPermutation rank axes = true) :
    axes.length = rank := by
  simp only [isPermutation, Bool.and_eq_true, beq_iff_eq] at h
  exact h.1.1

theorem extents_pick (shape : List Int64) :
    extents (pick axes shape) = pick axes (extents shape) := (pick_map _ _).symm

theorem volume_pick {shape : List Nat} (h : isPermutation shape.length axes = true) :
    volume (pick axes shape) = volume shape := by
  rw [volume_eq_prod, volume_eq_prod, (pick_perm h).prod_eq]

/-- **The walk of a permutation visits, at a reordered index, the place of the index.** -/
theorem getElem?_offsets_pick {shape index : List Nat} (hi : InRange shape index)
    (h : isPermutation shape.length axes = true) :
    (offsets (pick axes (shape.zip (strides shape))))[offset (pick axes shape) (pick axes index)]? =
      some (offset shape index) := by
  obtain ⟨places, rfl, hwalk, hlt⟩ := exists_places hi
  have hlen : (places.map Prod.fst).length = shape.length := List.Forall₂.length_eq hi
  have hshape : shape = places.map fun p => p.2.1 := by
    have hfst := congrArg (List.map Prod.fst) hwalk
    rwa [List.map_fst_zip (by rw [length_strides]), List.map_map] at hfst
  have hstrides : strides shape = places.map fun p => p.2.2 := by
    have hsnd := congrArg (List.map Prod.snd) hwalk
    rwa [List.map_snd_zip (by rw [length_strides]), List.map_map] at hsnd
  have hfst : pick axes shape = ((pick axes places).map Prod.snd).map Prod.fst := by
    rw [hshape, pick_map, List.map_map]
    rfl
  have hrange : InRange (((pick axes places).map Prod.snd).map Prod.fst)
      ((pick axes places).map Prod.fst) := by
    rw [InRange, List.map_map, List.forall₂_map_left_iff, List.forall₂_map_right_iff,
      List.forall₂_same]
    exact fun p hp => hlt p (mem_of_mem_pick hp)
  have hreach : reach ((pick axes places).map Prod.fst)
      (((pick axes places).map Prod.snd).map Prod.snd) =
      reach (places.map Prod.fst) (strides shape) := by
    -- An offset is a sum over the axes, so the order of the axes does not matter.
    have hp : (pick axes places).Perm places := pick_perm (by rwa [← hlen, List.length_map] at h)
    rw [hstrides, List.map_map, reach, reach, List.zipWith_map, List.zipWith_map,
      List.zipWith_self, List.zipWith_self]
    exact (hp.map _).sum_eq
  rw [hwalk, pick_map, pick_map, hfst, getElem?_offsets hrange, hreach, reach_strides hlen]

theorem permute_of_isPermutation (hv : t.Valid) (h : isPermutation t.rank axes = true) :
    t.permute axes = .ok ⟨pick axes t.shape,
      ((offsets (pick axes ((extents t.shape).zip (strides (extents t.shape))))).map
        (t.data.getD · 0)).toArray⟩ := by
  rw [permute, if_neg (not_not.mpr (length_eq_of_isPermutation h)), if_neg (by simp [h]),
    if_neg hv.axes, if_neg (by simp [holds_of_valid hv])]

/-- **A permutation of its axes reorders a valid tensor.** -/
theorem permute_eq_ok (hv : t.Valid) (h : isPermutation t.rank axes = true) :
    ∃ l, t.permute axes = .ok l ∧ Permuted axes t l := by
  have hrank : isPermutation (extents t.shape).length axes = true := by
    rwa [extents, List.length_map]
  have hwalk : (pick axes ((extents t.shape).zip (strides (extents t.shape)))).map Prod.fst =
      pick axes (extents t.shape) := by
    rw [← pick_map, List.map_fst_zip (by rw [length_strides])]
  refine ⟨_, permute_of_isPermutation hv h, rfl, ?_, fun index hi => ?_⟩
  · rw [List.size_toArray, List.length_map, length_offsets, hwalk, volume_pick hrank, hv.count]
  · have hlt : offset (extents t.shape) index < t.data.size := by
      rw [← hv.count]
      exact offset_lt hi
    rw [List.getElem?_toArray, List.getElem?_map, extents_pick, getElem?_offsets_pick hi hrank,
      Option.map_some, Array.getElem?_eq_getElem hlt, Array.getD_eq_getD_getElem?,
      Array.getElem?_eq_getElem hlt, Option.getD_some]

/-- A tensor stays valid when its axes are reordered. -/
theorem Permuted.valid {l : Layout} (hl : Permuted axes t l) (hv : t.Valid)
    (h : isPermutation t.rank axes = true) : (t.replace l).Valid := by
  have hrank : isPermutation (extents t.shape).length axes = true := by
    rwa [extents, List.length_map]
  have hlen : (pick axes t.shape).length = t.shape.length := (pick_perm h).length_eq
  refine ⟨?_, fun d hd => ?_, ?_, ?_⟩
  · intro hnil
    have hnil : pick axes t.shape = [] := hl.shape ▸ hnil
    rw [hnil] at hlen
    exact hv.axes (List.length_eq_zero_iff.mp hlen.symm)
  · rw [replace, hl.shape] at hd
    exact hv.positive d (mem_of_mem_pick hd)
  · rw [replace, hl.shape, extents_pick, volume_pick hrank, hv.count, hl.size]
  · rw [replace, hl.size]
    exact hv.countable

end Permute

section Transpose

variable {t : Tensor}

theorem offset_pair (rows cols i j : Nat) : offset [rows, cols] [i, j] = i * cols + j := by
  simp [offset, volume]

theorem inRange_pair {rows cols i j : Nat} : InRange [rows, cols] [i, j] ↔ i < rows ∧ j < cols := by
  simp [InRange]

/-- **The rows and columns of a valid matrix are swapped.** -/
theorem transpose_eq_ok (hv : t.Valid) (h : t.rank = 2) :
    ∃ l, t.transpose = .ok l ∧ Transposed t l := by
  obtain ⟨rows, cols, hs⟩ := List.length_eq_two.mp h
  have hrows : 0 < rows := hv.positive rows (by simp [hs])
  have hcols : 0 < cols := hv.positive cols (by simp [hs])
  have hsize : rows.toNatClampNeg * cols.toNatClampNeg = t.data.size := by
    rw [← hv.count, hs]
    simp [extents, volume]
  have hc : ¬ (rows ≤ 0 ∨ cols ≤ 0 ∨ rows.toNatClampNeg * cols.toNatClampNeg ≠ t.data.size) := by
    simp [hrows, hcols, hsize]
  have hlen : ∀ c, ((List.range rows.toNatClampNeg).map fun r =>
      quiet (t.data.getD (r * cols.toNatClampNeg + c) 0)).length = rows.toNatClampNeg := by
    simp
  have hok : t.transpose = .ok ⟨[cols, rows],
      ((List.range cols.toNatClampNeg).flatMap fun c => (List.range rows.toNatClampNeg).map fun r =>
        quiet (t.data.getD (r * cols.toNatClampNeg + c) 0)).toArray⟩ := by
    simp only [transpose, hs, toSingle_ofSingle]
    exact if_neg hc
  refine ⟨_, hok, ⟨rows, cols, hs, rfl⟩, ?_, fun i j hi => ?_⟩
  · rw [List.size_toArray, length_flatMap_range _ hlen, Nat.mul_comm, hsize]
  · rw [hs] at hi ⊢
    obtain ⟨hi, hj⟩ := inRange_pair.mp hi
    have hlt : i * cols.toNatClampNeg + j < t.data.size := by
      rw [← hsize, ← offset_pair rows.toNatClampNeg]
      simpa [volume] using offset_lt (inRange_pair.mpr ⟨hi, hj⟩)
    simp only [extents, List.map_cons, List.map_nil, offset_pair]
    rw [List.getElem?_toArray, getElem?_flatMap_range hlen hj hi, List.getElem?_map,
      List.getElem?_range hi, Option.map_some, Array.getElem?_eq_getElem hlt, Option.map_some,
      Array.getD_eq_getD_getElem?, Array.getElem?_eq_getElem hlt, Option.getD_some]

theorem transpose_of_rank_ne (h : t.rank ≠ 2) :
    t.transpose = .error (.notMatrix t.name t.rank) := by
  unfold transpose
  split
  · next rows cols hs =>
    exact absurd (show t.rank = 2 by rw [rank, hs]; rfl) h
  · rfl

/-- A matrix stays valid when it is transposed. -/
theorem Transposed.valid {l : Layout} (hl : Transposed t l) (hv : t.Valid) :
    (t.replace l).Valid := by
  obtain ⟨rows, cols, hs, hls⟩ := hl.shape
  refine ⟨?_, fun d hd => ?_, ?_, ?_⟩
  · simp [replace, hls]
  · simp only [replace, hls, List.mem_cons, List.not_mem_nil, or_false] at hd
    exact hv.positive d (by simp [hs, hd.symm])
  · rw [replace, hls, hl.size, ← hv.count, hs]
    simp [extents, volume, Nat.mul_comm]
  · rw [replace, hl.size]
    exact hv.countable

end Transpose

end LayerCode.Tensor
