import LayerCode.Proofs.Tensor.Reorder

/-!
# Orders of axes

The axes of a tensor can be put into any order. Orders compose, each has an inverse, and an order of
axes is also one of the places of an index, so the values of a reordered tensor can be found from
either side.

* `IsOrder`, `Rearranges`: the numbers of all axes in some order, and a list put into that order;
* `pick_pick`, `inverse`: orders one after the other, and the order that undoes another;
* `exists_index`, `Layout.ext_value?`: every offset is that of an index, so contents are determined
  by their values at indices;
* `Permuted.unique`, `Permuted.trans`, `Permuted.perm`: contents that were reordered are determined,
  can be reordered again, and are the same values;
* **`permute_rearranges`**: what reordering the axes gives, and when it goes through;
* **`permute_permute`**: two reorderings one after the other, and one undone.
-/

namespace LayerCode

/-- The value at an index, which stands at the row-major offset of the index. -/
def Layout.value? (l : Layout) (index : List Nat) : Option UInt32 :=
  l.data[Tensor.offset (Tensor.extents l.shape) index]?

namespace Tensor

/-- The axes are the numbers below the rank in some order. -/
def IsOrder (rank : Nat) (axes : List Int64) : Prop :=
  (axes.map Int64.toInt).Perm ((List.range rank).map Nat.cast)

/-- Place `k` of the second list is place `axes[k]` of the first. -/
structure Rearranges {α : Type} (axes : List Int64) (xs ys : List α) : Prop where
  before : xs.length = axes.length
  after : ys.length = axes.length
  places : ∀ (k : Nat) (a : Int64), axes[k]? = some a → ys[k]? = xs[a.toNatClampNeg]?

/-! ## Orders -/

section Order

variable {α : Type} {rank : Nat} {axes p q : List Int64}

theorem bounds_of_isPermutation (h : isPermutation rank axes = true) {a : Int64} (ha : a ∈ axes) :
    0 ≤ a.toInt ∧ a.toNatClampNeg < rank := by
  simp only [isPermutation, Bool.and_eq_true, List.all_eq_true, decide_eq_true_eq] at h
  obtain ⟨h0, hlt⟩ := h.1.2 a ha
  exact ⟨by simpa [Int64.le_iff_toInt_le] using h0, hlt⟩

theorem nodup_of_isPermutation (h : isPermutation rank axes = true) : axes.Nodup := by
  simp only [isPermutation, Bool.and_eq_true, decide_eq_true_eq] at h
  exact h.2

theorem isPermutation_iff : isPermutation rank axes = true ↔ IsOrder rank axes := by
  constructor
  · intro h
    have hcast : axes.map Int64.toInt = (axes.map Int64.toNatClampNeg).map Nat.cast := by
      rw [List.map_map]
      refine List.map_congr_left fun a ha => ?_
      have h0 := (bounds_of_isPermutation h ha).1
      rw [Function.comp_apply, ← Int64.toNat_toInt]
      omega
    rw [IsOrder, hcast]
    exact (axes_perm_range h).map _
  · intro h
    have hlen : axes.length = rank := by simpa using h.length_eq
    have hinj : Function.Injective (Nat.cast : Nat → Int) := fun a b hab => by omega
    have hnodup : (axes.map Int64.toInt).Nodup :=
      h.nodup_iff.mpr (List.nodup_range.map hinj)
    simp only [isPermutation, Bool.and_eq_true, beq_iff_eq, List.all_eq_true, decide_eq_true_eq]
    refine ⟨⟨hlen, fun a ha => ?_⟩, hnodup.of_map _⟩
    obtain ⟨k, hk, hka⟩ := List.mem_map.mp (h.mem_iff.mp (List.mem_map_of_mem ha))
    have hk := List.mem_range.mp hk
    have h0 : 0 ≤ a := by
      rw [Int64.le_iff_toInt_le]
      exact hka ▸ Int.natCast_nonneg k
    refine ⟨h0, ?_⟩
    rw [← Int64.toNat_toInt]
    omega

theorem isPermutation_of_perm (hpq : p.Perm q) (h : isPermutation rank q = true) :
    isPermutation rank p = true := by
  rw [isPermutation_iff] at h ⊢
  exact (hpq.map _).trans h

/-- The numbers of axes fit into a machine word, since the axes do. -/
theorem rank_le (h : isPermutation rank axes = true) : rank ≤ 2 ^ 63 := by
  rcases Nat.eq_zero_or_pos rank with h0 | hpos
  · omega
  · have hmem : rank - 1 ∈ axes.map Int64.toNatClampNeg :=
      (axes_perm_range h).mem_iff.mpr (List.mem_range.mpr (by omega))
    obtain ⟨a, -, ha⟩ := List.mem_map.mp hmem
    have := a.toNatClampNeg_lt
    omega

theorem getElem?_pick {xs : List α} (h : ∀ a ∈ axes, a.toNatClampNeg < xs.length) (k : Nat) :
    (pick axes xs)[k]? = axes[k]?.bind fun a => xs[a.toNatClampNeg]? := by
  induction axes generalizing k with
  | nil => rfl
  | cons a axes ih =>
    have ha := h a List.mem_cons_self
    have hrest := ih fun b hb => h b (List.mem_cons_of_mem a hb)
    rw [pick, List.filterMap_cons, List.getElem?_eq_getElem ha]
    cases k with
    | zero => simp [ha]
    | succ k => simpa [pick] using hrest k

theorem lt_length_of_isPermutation {xs : List α} (h : isPermutation xs.length axes = true) :
    ∀ a ∈ axes, a.toNatClampNeg < xs.length :=
  fun _ ha => (bounds_of_isPermutation h ha).2

theorem rearranges_iff {xs ys : List α} (h : isPermutation xs.length axes = true) :
    Rearranges axes xs ys ↔ ys = pick axes xs := by
  have hlt := lt_length_of_isPermutation h
  have hlen := length_eq_of_isPermutation h
  constructor
  · intro hr
    ext1 k
    rw [getElem?_pick hlt]
    cases hk : axes[k]? with
    | none =>
      rw [Option.bind_none, List.getElem?_eq_none]
      rw [hr.after]
      exact List.getElem?_eq_none_iff.mp hk
    | some a => exact hr.places k a hk
  · rintro rfl
    refine ⟨hlen.symm, ?_, fun k a hk => ?_⟩
    · rw [(pick_perm h).length_eq, hlen]
    · rw [getElem?_pick hlt, hk, Option.bind_some]

/-- **One order after the other** is the first order put into the second. -/
theorem pick_pick {xs : List α} (hp : isPermutation xs.length p = true)
    (hq : isPermutation xs.length q = true) : pick q (pick p xs) = pick (pick q p) xs := by
  have hplen := length_eq_of_isPermutation hp
  have hlt := lt_length_of_isPermutation hp
  have hqlt := lt_length_of_isPermutation hq
  ext1 k
  rw [getElem?_pick (by rwa [(pick_perm hp).length_eq]),
    getElem?_pick fun a ha => hlt a (mem_of_mem_pick ha),
    getElem?_pick (by rwa [hplen]), Option.bind_assoc]
  congr 1
  funext a
  exact getElem?_pick hlt _

theorem isPermutation_pick (hp : isPermutation rank p = true) (hq : isPermutation rank q = true) :
    isPermutation rank (pick q p) = true := by
  have hplen := length_eq_of_isPermutation hp
  exact isPermutation_of_perm (pick_perm (by rwa [hplen])) hp

/-! ### Inverses -/

/-- The axes in their own order. -/
def firstOrder (rank : Nat) : List Int64 := (List.range rank).map Int64.ofNat

/-- The order that undoes another: place `k` is where the axis `k` went. -/
def inverse (axes : List Int64) : List Int64 :=
  (List.range axes.length).map fun k => Int64.ofNat (axes.idxOf (Int64.ofNat k))

theorem toNat_ofNat {k : Nat} (h : k < 2 ^ 63) : (Int64.ofNat k).toNatClampNeg = k := by
  rw [← Int64.toNat_toInt, Int64.toInt_ofNat_of_lt h, Int.toNat_natCast]

theorem ofNat_toNat {a : Int64} (h : 0 ≤ a.toInt) : Int64.ofNat a.toNatClampNeg = a := by
  rw [← Int64.toInt_inj, Int64.toInt_ofNat_of_lt a.toNatClampNeg_lt, ← Int64.toNat_toInt]
  omega

theorem getElem?_firstOrder {k : Nat} (h : k < rank) :
    (firstOrder rank)[k]? = some (Int64.ofNat k) := by
  rw [firstOrder, List.getElem?_map, List.getElem?_range h, Option.map_some]

theorem getElem?_inverse {k : Nat} (h : k < axes.length) :
    (inverse axes)[k]? = some (Int64.ofNat (axes.idxOf (Int64.ofNat k))) := by
  rw [inverse, List.getElem?_map, List.getElem?_range h, Option.map_some]

theorem pick_firstOrder {xs : List α} (h : xs.length ≤ 2 ^ 63) :
    pick (firstOrder xs.length) xs = xs := by
  have hplace : ∀ k ∈ List.range xs.length,
      xs[(Int64.ofNat k).toNatClampNeg]? = xs[k]? := fun k hk => by
    rw [toNat_ofNat (by have := List.mem_range.mp hk; omega)]
  rw [pick, firstOrder, List.filterMap_map]
  exact (List.filterMap_congr hplace).trans (filterMap_range_getElem? xs)

theorem mem_of_isPermutation (h : isPermutation rank axes = true) {k : Nat} (hk : k < rank) :
    Int64.ofNat k ∈ axes := by
  obtain ⟨a, ha, hak⟩ := List.mem_map.mp ((axes_perm_range h).mem_iff.mpr (List.mem_range.mpr hk))
  rwa [← hak, ofNat_toNat (bounds_of_isPermutation h ha).1]

theorem length_firstOrder (rank : Nat) : (firstOrder rank).length = rank := by
  rw [firstOrder, List.length_map, List.length_range]

theorem length_inverse (axes : List Int64) : (inverse axes).length = axes.length := by
  rw [inverse, List.length_map, List.length_range]

/-- Where an axis went is a place of the order. -/
theorem toNat_idxOf (h : isPermutation rank axes = true) {k : Nat} (hk : k < rank) :
    (Int64.ofNat (axes.idxOf (Int64.ofNat k))).toNatClampNeg = axes.idxOf (Int64.ofNat k) ∧
      axes.idxOf (Int64.ofNat k) < axes.length := by
  have hlt := List.idxOf_lt_length_of_mem (mem_of_isPermutation h hk)
  have hlen := length_eq_of_isPermutation h
  have hle := rank_le h
  exact ⟨toNat_ofNat (by omega), hlt⟩

theorem pick_inverse (h : isPermutation rank axes = true) :
    pick (inverse axes) axes = firstOrder rank := by
  have hlen := length_eq_of_isPermutation h
  have hlt : ∀ a ∈ inverse axes, a.toNatClampNeg < axes.length := by
    intro a ha
    obtain ⟨k, hk, rfl⟩ := List.mem_map.mp ha
    obtain ⟨hnat, hidx⟩ := toNat_idxOf h (hlen ▸ List.mem_range.mp hk)
    rwa [hnat]
  ext1 k
  rw [getElem?_pick hlt]
  by_cases hk : k < rank
  · obtain ⟨hnat, hidx⟩ := toNat_idxOf h hk
    rw [getElem?_inverse (by omega), getElem?_firstOrder hk, Option.bind_some, hnat,
      List.getElem?_eq_getElem hidx, List.getElem_idxOf]
  · rw [List.getElem?_eq_none (by rw [length_inverse]; omega),
      List.getElem?_eq_none (by rw [length_firstOrder]; omega), Option.bind_none]

theorem pick_of_inverse (h : isPermutation rank axes = true) :
    pick axes (inverse axes) = firstOrder rank := by
  have hlen := length_eq_of_isPermutation h
  have hlt : ∀ a ∈ axes, a.toNatClampNeg < (inverse axes).length := by
    rw [length_inverse, hlen]
    exact fun a ha => (bounds_of_isPermutation h ha).2
  ext1 k
  rw [getElem?_pick hlt]
  by_cases hk : k < rank
  · have hka : k < axes.length := by omega
    obtain ⟨h0, hlt⟩ := bounds_of_isPermutation h (List.getElem_mem hka)
    rw [List.getElem?_eq_getElem hka, Option.bind_some, getElem?_inverse (by omega),
      ofNat_toNat h0, (nodup_of_isPermutation h).idxOf_getElem, getElem?_firstOrder hk]
  · rw [List.getElem?_eq_none (by omega), List.getElem?_eq_none (by rw [length_firstOrder]; omega),
      Option.bind_none]

theorem isPermutation_firstOrder (h : rank ≤ 2 ^ 63) :
    isPermutation rank (firstOrder rank) = true := by
  have hcast : (firstOrder rank).map Int64.toInt = (List.range rank).map Nat.cast := by
    rw [firstOrder, List.map_map]
    refine List.map_congr_left fun k hk => Int64.toInt_ofNat_of_lt ?_
    have := List.mem_range.mp hk
    omega
  rw [isPermutation_iff, IsOrder, hcast]

/-- **The inverse of an order is an order.** -/
theorem isPermutation_inverse (h : isPermutation rank axes = true) :
    isPermutation rank (inverse axes) = true := by
  have hlen := length_eq_of_isPermutation h
  -- The inverse, put into the order that it undoes, is the first order.
  have hperm : (firstOrder rank).Perm (inverse axes) := by
    rw [← pick_of_inverse h]
    exact pick_perm (by rwa [length_inverse, hlen])
  exact isPermutation_of_perm hperm.symm (isPermutation_firstOrder (rank_le h))

theorem pick_inverse_pick {xs : List α} (h : isPermutation xs.length axes = true) :
    pick (inverse axes) (pick axes xs) = xs := by
  rw [pick_pick h (isPermutation_inverse h), pick_inverse h, pick_firstOrder (rank_le h)]

theorem pick_pick_inverse {xs : List α} (h : isPermutation xs.length axes = true) :
    pick axes (pick (inverse axes) xs) = xs := by
  rw [pick_pick (isPermutation_inverse h) h, pick_of_inverse h, pick_firstOrder (rank_le h)]

end Order

/-! ## Indices -/

section Index

variable {axes : List Int64} {shape index : List Nat}

/-- **Every offset below the volume of a shape is that of an index.** -/
theorem exists_index {o : Nat} (h : o < volume shape) :
    ∃ index, InRange shape index ∧ offset shape index = o := by
  induction shape generalizing o with
  | nil =>
    obtain rfl : o = 0 := by
      rw [volume] at h
      omega
    exact ⟨[], .nil, rfl⟩
  | cons d ds ih =>
    rw [volume] at h
    have hpos : 0 < volume ds := Nat.pos_of_mul_pos_left (by omega : 0 < d * volume ds)
    obtain ⟨is, his, ho⟩ := ih (Nat.mod_lt o hpos)
    refine ⟨o / volume ds :: is, .cons ?_ his, ?_⟩
    · exact Nat.div_lt_of_lt_mul (by rwa [Nat.mul_comm] at h)
    · rw [offset, ho, Nat.mul_comm, Nat.div_add_mod]

theorem inRange_pick (axes : List Int64) (h : InRange shape index) :
    InRange (pick axes shape) (pick axes index) := by
  obtain ⟨pairs, rfl, rfl, hlt⟩ : ∃ pairs : List (Nat × Nat),
      index = pairs.map Prod.fst ∧ shape = pairs.map Prod.snd ∧ ∀ p ∈ pairs, p.1 < p.2 := by
    have hlen := List.Forall₂.length_eq h
    exact ⟨index.zip shape, (List.map_fst_zip hlen.le).symm, (List.map_snd_zip hlen.ge).symm,
      fun p hp => (List.forall₂_iff_zip.mp h).2 hp⟩
  rw [pick_map, pick_map, InRange, List.forall₂_map_left_iff, List.forall₂_map_right_iff,
    List.forall₂_same]
  exact fun p hp => hlt p (mem_of_mem_pick hp)

/-- An index of the reordered shape is a reordered index of the shape. -/
theorem exists_pick_eq (h : isPermutation shape.length axes = true)
    (hj : InRange (pick axes shape) index) : ∃ i, InRange shape i ∧ index = pick axes i := by
  have hlen : index.length = shape.length := by
    rw [List.Forall₂.length_eq hj, (pick_perm h).length_eq]
  refine ⟨pick (inverse axes) index, ?_, ?_⟩
  · have := inRange_pick (inverse axes) hj
    rwa [pick_inverse_pick h] at this
  · rw [pick_pick_inverse (by rwa [hlen])]

end Index

end Tensor

/-- **Contents are determined by their values at indices.** -/
theorem Layout.ext_value? {l m : Layout} (hs : l.shape = m.shape)
    (hl : Tensor.volume (Tensor.extents l.shape) = l.data.size)
    (hm : Tensor.volume (Tensor.extents m.shape) = m.data.size)
    (h : ∀ j, Tensor.InRange (Tensor.extents l.shape) j → l.value? j = m.value? j) : l = m := by
  obtain ⟨shape, ldata⟩ := l
  obtain ⟨_, mdata⟩ := m
  obtain rfl : shape = _ := hs
  simp only at hl hm
  have hdata : ldata = mdata := by
    refine Array.ext_getElem? fun o => ?_
    by_cases ho : o < ldata.size
    · obtain ⟨j, hj, rfl⟩ := Tensor.exists_index (hl.symm ▸ ho)
      exact h j hj
    · rw [Array.getElem?_eq_none (by omega), Array.getElem?_eq_none (by omega)]
  rw [hdata]

namespace Tensor

/-! ## Reordered contents -/

theorem isPermutation_extents {axes : List Int64} {shape : List Int64}
    (h : isPermutation shape.length axes = true) :
    isPermutation (extents shape).length axes = true := by
  rwa [extents, List.length_map]

theorem length_of_inRange {shape : List Int64} {index : List Nat}
    (h : InRange (extents shape) index) : index.length = shape.length := by
  rw [List.Forall₂.length_eq h, extents, List.length_map]

theorem Valid.exists_value? {t : Tensor} (hv : t.Valid) {index : List Nat}
    (h : InRange (extents t.shape) index) : ∃ v, t.layout.value? index = some v :=
  ⟨_, Array.getElem?_eq_getElem (hv.count ▸ offset_lt h)⟩

/-- The walk of an order visits every place once. -/
theorem offsets_perm {axes : List Int64} {shape : List Nat}
    (h : isPermutation shape.length axes = true) :
    (offsets (pick axes (shape.zip (strides shape)))).Perm (List.range (volume shape)) := by
  have hlen : (offsets (pick axes (shape.zip (strides shape)))).length = volume shape := by
    rw [length_offsets, ← pick_map, List.map_fst_zip (by rw [length_strides]), volume_pick h]
  have hsub : List.range (volume shape) ⊆ offsets (pick axes (shape.zip (strides shape))) := by
    intro o ho
    obtain ⟨index, hi, rfl⟩ := exists_index (List.mem_range.mp ho)
    exact List.mem_of_getElem? (getElem?_offsets_pick hi h)
  refine ((List.subperm_of_subset List.nodup_range hsub).perm_of_length_le ?_).symm
  rw [hlen, List.length_range]

theorem map_getD_range (data : Array UInt32) :
    (List.range data.size).map (data.getD · 0) = data.toList := by
  ext1 k
  by_cases hk : k < data.size
  · simp [hk]
  · simp [hk]

namespace Permuted

variable {axes p q : List Int64} {t : Tensor} {l m : Layout}

/-- **The contents of a reordered tensor are determined.** -/
theorem unique (hv : t.Valid) (h : isPermutation t.rank axes = true) (hl : Permuted axes t l)
    (hm : Permuted axes t m) : l = m := by
  have hrank := isPermutation_extents h
  have hvolume : volume (extents (pick axes t.shape)) = t.data.size := by
    rw [extents_pick, volume_pick hrank, hv.count]
  apply Layout.ext_value? (hl.shape.trans hm.shape.symm)
  · rw [hl.shape, hvolume, hl.size]
  · rw [hm.shape, hvolume, hm.size]
  · intro j hj
    rw [hl.shape, extents_pick] at hj
    obtain ⟨i, hi, rfl⟩ := exists_pick_eq hrank hj
    exact (hl.moved i hi).trans (hm.moved i hi).symm

/-- **Reordering contents again** reorders them by the first order put into the second. -/
theorem trans (hp : isPermutation t.rank p = true) (hq : isPermutation t.rank q = true)
    (hl : Permuted p t l) (hm : Permuted q (t.replace l) m) : Permuted (pick q p) t m where
  shape := by rw [hm.shape, replace, hl.shape, pick_pick hp hq]
  size := hm.size.trans hl.size
  moved index hi := by
    have hlen : index.length = t.rank := length_of_inRange hi
    have hpi : InRange (extents l.shape) (pick p index) := by
      rw [hl.shape, extents_pick]
      exact inRange_pick p hi
    rw [← pick_pick (by rwa [hlen]) (by rwa [hlen])]
    exact (hm.moved _ hpi).trans (hl.moved index hi)

theorem refl (hr : t.rank ≤ 2 ^ 63) : Permuted (firstOrder t.rank) t t.layout where
  shape := (pick_firstOrder hr).symm
  size := rfl
  moved index hi := by
    have hlen : index.length = t.rank := length_of_inRange hi
    rw [← hlen, pick_firstOrder (by rwa [hlen])]
    rfl

/-- **The values of a reordered tensor are those of the tensor, each as often as before.** -/
theorem perm (hv : t.Valid) (h : isPermutation t.rank axes = true) (hl : Permuted axes t l) :
    l.data.toList.Perm t.data.toList := by
  obtain ⟨k, hk, hpk⟩ := permute_eq_ok hv h
  obtain rfl := unique hv h hl hpk
  rw [permute_of_isPermutation hv h, Except.ok.injEq] at hk
  have hoffsets := (offsets_perm (isPermutation_extents h)).map (t.data.getD · 0)
  rw [hv.count, map_getD_range] at hoffsets
  rwa [← hk]

end Permuted

/-! ## Reordering -/

section Reorder

variable {name : String} {shape : List Int64} {data : Array UInt32} {t : Tensor}

theorem isPermutation_of_permute {axes : List Int64} {l : Layout} (h : t.permute axes = .ok l) :
    isPermutation t.rank axes = true := by
  unfold permute at h
  split_ifs at h with _ hp
  simpa using hp

theorem permuted_of_permute (hv : t.Valid) {axes : List Int64} {l : Layout}
    (h : t.permute axes = .ok l) : Permuted axes t l := by
  obtain ⟨k, hk, hpk⟩ := permute_eq_ok hv (isPermutation_of_permute h)
  obtain rfl := Except.ok.inj (h.symm.trans hk)
  exact hpk

/-- The only list that an order makes into `j` is the one that it was made from. -/
theorem rearranges_pick_iff {α : Type} {axes : List Int64} {i i' : List α}
    (h : isPermutation i.length axes = true) : Rearranges axes i' (pick axes i) ↔ i' = i := by
  constructor
  · intro hr
    have hlen : i'.length = i.length := hr.before.trans (length_eq_of_isPermutation h)
    have h' : isPermutation i'.length axes = true := by rwa [hlen]
    rw [← pick_inverse_pick h', ← (rearranges_iff h').mp hr, pick_inverse_pick h]
  · rintro rfl
    exact (rearranges_iff h).mpr rfl

/-- **Reordering the axes of a tensor.** It goes through for the orders of its axes and for nothing
else. The shape is put into that order and the number of values stays. The value at an index `j` is
then the one that the tensor has at the index `i` whose place `axes[k]` is place `k` of `j`, and
there is one such index. -/
theorem permute_rearranges (h : make name shape data = .ok t) (axes : List Int64) :
    ((∃ l, t.permute axes = .ok l) ↔ IsOrder t.rank axes) ∧
      ∀ l, t.permute axes = .ok l →
        Rearranges axes t.shape l.shape ∧ l.data.size = t.data.size ∧
        ∀ j, InRange (extents l.shape) j →
          ∃ i v, (∀ i', Rearranges axes i' j ↔ i' = i) ∧ InRange (extents t.shape) i ∧
            t.layout.value? i = some v ∧ l.value? j = some v := by
  have hv := (make_eq_ok_iff.mp h).2
  refine ⟨⟨fun ⟨l, hl⟩ => ?_, fun ho => ?_⟩, fun l hl => ?_⟩
  · exact isPermutation_iff.mp (isPermutation_of_permute hl)
  · obtain ⟨l, hl, -⟩ := permute_eq_ok hv (isPermutation_iff.mpr ho)
    exact ⟨l, hl⟩
  · have hp := isPermutation_of_permute hl
    have hrank := isPermutation_extents hp
    have hpl := permuted_of_permute hv hl
    refine ⟨(rearranges_iff hp).mpr hpl.shape, hpl.size, fun j hj => ?_⟩
    rw [hpl.shape, extents_pick] at hj
    obtain ⟨i, hi, rfl⟩ := exists_pick_eq hrank hj
    obtain ⟨v, hvalue⟩ := hv.exists_value? hi
    have hlen : i.length = t.rank := length_of_inRange hi
    refine ⟨i, v, fun i' => rearranges_pick_iff (by rwa [hlen]), hi, hvalue, ?_⟩
    exact (hpl.moved i hi).trans hvalue

/-- The weights of a convolution of width two over one channel with three filters, a signalling NaN
and a negative zero among them. -/
def filters : Tensor := ⟨"weight", [2, 1, 3], #[1, 2, 3, 4, 0x80000000, 0x7fa00001]⟩

/-- The filters come to the front, and the last value stays the last. -/
theorem permute_rearranges_filters :
    make "weight" [2, 1, 3] filters.data = .ok filters ∧ IsOrder 3 [2, 0, 1] ∧
      ∃ l i, filters.permute [2, 0, 1] = .ok l ∧
        Rearranges [2, 0, 1] [2, 1, 3] l.shape ∧ InRange (extents l.shape) [2, 1, 0] ∧
        Rearranges [2, 0, 1] i [2, 1, 0] ∧
        filters.layout.value? i = l.value? [2, 1, 0] := by
  have hmake : make "weight" [2, 1, 3] filters.data = .ok filters := by decide +kernel
  have horder : IsOrder 3 [2, 0, 1] := isPermutation_iff.mp (by decide)
  obtain ⟨hok, hall⟩ := permute_rearranges hmake [2, 0, 1]
  obtain ⟨l, hl⟩ := hok.mpr horder
  obtain ⟨hshape, -, hvalues⟩ := hall l hl
  have hls : l.shape = [3, 2, 1] := (rearranges_iff (by decide)).mp hshape
  have hj : InRange (extents l.shape) [2, 1, 0] := by
    rw [hls]
    simp [InRange, extents]
  obtain ⟨i, v, hi, -, hv, hlv⟩ := hvalues _ hj
  exact ⟨hmake, horder, l, i, hl, hshape, hj, (hi i).mpr rfl, hv.trans hlv.symm⟩

/-- **Two orders one after the other.** Reordering a tensor by `p` and then by `q` is reordering it
once, by the order `r` whose place `k` is `p[q[k]]`. Reordering it by `p` and then by the inverse of
`p` gives back the tensor. So no value is lost, and none is there more often than before. -/
theorem permute_permute (h : make name shape data = .ok t) {p q : List Int64}
    (hp : IsOrder t.rank p) (hq : IsOrder t.rank q) :
    ∃ l m r, t.permute p = .ok l ∧ (∀ r', Rearranges q p r' ↔ r' = r) ∧
      (t.replace l).permute q = .ok m ∧ t.permute r = .ok m ∧
      Rearranges (inverse p) p (firstOrder t.rank) ∧
      (t.replace l).permute (inverse p) = .ok t.layout ∧
      (t.replace l).data.toList.Perm t.data.toList := by
  have hv := (make_eq_ok_iff.mp h).2
  rw [← isPermutation_iff] at hp hq
  obtain ⟨l, hl, hpl⟩ := permute_eq_ok hv hp
  have hvl := hpl.valid hv hp
  have hplen := length_eq_of_isPermutation hp
  have hrank : (t.replace l).rank = t.rank := by
    rw [rank, replace, hpl.shape, (pick_perm hp).length_eq, rank]
  -- Whatever the second order is, the result is that of the two orders taken together.
  have hthen : ∀ q', isPermutation t.rank q' = true →
      ∃ m, (t.replace l).permute q' = .ok m ∧ Permuted (pick q' p) t m := fun q' hq' => by
    obtain ⟨m, hm, hpm⟩ := permute_eq_ok hvl (by rwa [hrank])
    exact ⟨m, hm, hpl.trans hp hq' hpm⟩
  obtain ⟨m, hm, hpm⟩ := hthen q hq
  obtain ⟨k, hk, hpk⟩ := hthen (inverse p) (isPermutation_inverse hp)
  obtain ⟨m', hm', hpm'⟩ := permute_eq_ok hv (isPermutation_pick hp hq)
  rw [pick_inverse hp] at hpk
  have hfirst := isPermutation_firstOrder (rank_le hp)
  refine ⟨l, m, pick q p, hl, fun r' => rearranges_iff (by rwa [hplen]), hm, ?_, ?_, ?_, ?_⟩
  · rw [hm', hpm.unique hv (isPermutation_pick hp hq) hpm']
  · rw [rearranges_iff (by rw [hplen]; exact isPermutation_inverse hp), pick_inverse hp]
  · rw [hk, hpk.unique hv hfirst (Permuted.refl (rank_le hp))]
  · exact hpl.perm hv hp

/-- The filters come to the front, and then the channels in front of the widths. -/
theorem permute_permute_filters :
    make "weight" [2, 1, 3] filters.data = .ok filters ∧ IsOrder 3 [2, 0, 1] ∧ IsOrder 3 [0, 2, 1] ∧
      ∃ l m, filters.permute [2, 0, 1] = .ok l ∧ (filters.replace l).permute [0, 2, 1] = .ok m ∧
        filters.permute [2, 1, 0] = .ok m ∧
        (filters.replace l).permute (inverse [2, 0, 1]) = .ok filters.layout := by
  have hmake : make "weight" [2, 1, 3] filters.data = .ok filters := by decide +kernel
  have hp : IsOrder 3 [2, 0, 1] := isPermutation_iff.mp (by decide)
  have hq : IsOrder 3 [0, 2, 1] := isPermutation_iff.mp (by decide)
  obtain ⟨l, m, r, hl, hr, hm, hm', -, hback, -⟩ := permute_permute hmake hp hq
  have hthree : Rearranges [0, 2, 1] [2, 0, 1] [(2 : Int64), 1, 0] :=
    (rearranges_iff (by decide)).mpr (by decide)
  obtain rfl := (hr _).mp hthree
  exact ⟨hmake, hp, hq, l, m, hl, hm, hm', hback⟩

end Reorder

end Tensor

end LayerCode
