import Mathlib.Data.List.Basic
import Mathlib.Data.List.Induction
import Mathlib.Data.String.Basic
import LayerCode.Text.Listing

/-!
# Ordered and repeated texts

* `firstRepeated_eq_none_iff`: no text repeats an earlier one;
* `sortOn_perm`, `sortOn_eq_self`: sorting keeps the elements, and keeps a list in order as it is;
* `sortOn_pairwise`, **`map_sortOn_eq_iff`**: sorting gives a list in order, so two lists are sorted
  alike if and only if they have the same elements, equally often;
* `firstSeen_concat`: an element at the end of a list counts if it is new. From this follow the
  elements of `firstSeen`, their order, and **`firstSeen_append`**.
-/

namespace LayerCode.Text

theorem firstRepeated_eq_none_iff {seen xs : List String} :
    firstRepeated seen xs = none ↔ xs.Nodup ∧ ∀ x ∈ xs, x ∉ seen := by
  induction xs generalizing seen with
  | nil => simp [firstRepeated]
  | cons x xs ih =>
    rw [firstRepeated, List.nodup_cons]
    by_cases hx : x ∈ seen
    · simp [hx]
    · rw [if_neg (by simpa using hx), ih]
      constructor
      · rintro ⟨hn, hs⟩
        refine ⟨⟨fun h => hs x h List.mem_cons_self, hn⟩, fun y hy => ?_⟩
        rcases List.mem_cons.mp hy with rfl | hy
        · exact hx
        · exact fun h => hs y hy (List.mem_cons_of_mem x h)
      · rintro ⟨⟨hnx, hn⟩, hs⟩
        refine ⟨hn, fun y hy h => ?_⟩
        rcases List.mem_cons.mp h with rfl | h
        · exact hnx hy
        · exact hs y (List.mem_cons_of_mem x hy) h

theorem not_nodup_of_firstRepeated {xs : List String} {x : String}
    (h : firstRepeated [] xs = some x) : ¬ xs.Nodup := by
  intro hn
  have hnone : firstRepeated [] xs = none := firstRepeated_eq_none_iff.mpr ⟨hn, by simp⟩
  rw [h] at hnone
  exact absurd hnone (by simp)

/-- An element of the second of two related lists is related to one of the first. -/
theorem exists_of_mem_right {α β : Type} {R : α → β → Prop} {as : List α} {bs : List β}
    (h : List.Forall₂ R as bs) {b : β} (hb : b ∈ bs) : ∃ a ∈ as, R a b := by
  induction h with
  | nil => exact absurd hb List.not_mem_nil
  | @cons a b' as bs hab _ ih =>
    rcases List.mem_cons.mp hb with rfl | hb
    · exact ⟨a, List.mem_cons_self, hab⟩
    · obtain ⟨x, hx, hxb⟩ := ih hb
      exact ⟨x, List.mem_cons_of_mem a hx, hxb⟩

section Sorting

variable {α : Type} (key : α → String)

theorem insertOn_perm (a : α) (bs : List α) : (insertOn key a bs).Perm (a :: bs) := by
  induction bs with
  | nil => exact .refl _
  | cons b bs ih =>
    rw [insertOn]
    split_ifs
    · exact .refl _
    · exact (ih.cons b).trans (.swap a b bs)

theorem foldl_insertOn_perm (as sorted : List α) :
    (as.foldl (fun sorted a => insertOn key a sorted) sorted).Perm (sorted ++ as) := by
  induction as generalizing sorted with
  | nil => simp
  | cons a as ih =>
    refine (ih _).trans ?_
    refine ((insertOn_perm key a sorted).append_right as).trans ?_
    exact List.perm_middle.symm

theorem sortOn_perm (as : List α) : (sortOn key as).Perm as :=
  foldl_insertOn_perm key as []

variable {key}

theorem insertOn_pairwise (a : α) {bs : List α} (h : (bs.map key).Pairwise (· ≤ ·)) :
    ((insertOn key a bs).map key).Pairwise (· ≤ ·) := by
  induction bs with
  | nil => exact List.pairwise_singleton _ _
  | cons b bs ih =>
    rw [List.map_cons, List.pairwise_cons] at h
    rw [insertOn]
    split_ifs with hlt
    · refine List.pairwise_cons.mpr ⟨fun k hk => ?_, List.pairwise_cons.mpr h⟩
      rcases List.mem_cons.mp hk with rfl | hk
      · exact hlt.le
      · exact hlt.le.trans (h.1 k hk)
    · refine List.pairwise_cons.mpr ⟨fun k hk => ?_, ih h.2⟩
      rcases List.mem_cons.mp (((insertOn_perm key a bs).map key).mem_iff.mp hk) with rfl | hk
      · exact not_lt.mp hlt
      · exact h.1 k hk

theorem foldl_insertOn_pairwise (as : List α) {sorted : List α}
    (h : (sorted.map key).Pairwise (· ≤ ·)) :
    ((as.foldl (fun sorted a => insertOn key a sorted) sorted).map key).Pairwise (· ≤ ·) := by
  induction as generalizing sorted with
  | nil => exact h
  | cons a as ih => exact ih (insertOn_pairwise a h)

variable (key) in
theorem sortOn_pairwise (as : List α) : ((sortOn key as).map key).Pairwise (· ≤ ·) :=
  foldl_insertOn_pairwise as List.Pairwise.nil

/-- **Sorted keys are equal if and only if the keys are the same, each equally often.** -/
theorem map_sortOn_eq_iff {as : List α} {keys : List String} :
    (sortOn key as).map key = sortOn id keys ↔ (as.map key).Perm keys := by
  have has : ((sortOn key as).map key).Perm (as.map key) := (sortOn_perm key as).map key
  have hkeys : (sortOn id keys).Perm keys := sortOn_perm id keys
  constructor
  · intro h
    exact has.symm.trans (h ▸ hkeys)
  · intro h
    have hsorted : (sortOn id keys).Pairwise (· ≤ ·) := by simpa using sortOn_pairwise id keys
    exact List.Perm.eq_of_pairwise (fun _ _ _ _ hab hba => le_antisymm hab hba)
      (sortOn_pairwise key as) hsorted (has.trans (h.trans hkeys.symm))

theorem insertOn_eq_concat {a : α} {bs : List α} (h : ∀ b ∈ bs, key b < key a) :
    insertOn key a bs = bs ++ [a] := by
  induction bs with
  | nil => rfl
  | cons b bs ih =>
    have hb := h b List.mem_cons_self
    rw [insertOn, if_neg (lt_asymm hb), ih fun c hc => h c (List.mem_cons_of_mem b hc)]
    rfl

theorem foldl_insertOn_eq_append {as sorted : List α}
    (h : ((sorted ++ as).map key).Pairwise (· < ·)) :
    as.foldl (fun sorted a => insertOn key a sorted) sorted = sorted ++ as := by
  induction as generalizing sorted with
  | nil => simp
  | cons a as ih =>
    have hlt : ∀ b ∈ sorted, key b < key a := by
      intro b hb
      rw [List.map_append, List.pairwise_append] at h
      exact h.2.2 _ (List.mem_map_of_mem hb) _ List.mem_cons_self
    rw [List.foldl_cons, insertOn_eq_concat hlt, ih (by simpa using h)]
    simp

/-- A list in strict order is left as it is. -/
theorem sortOn_eq_self {as : List α} (h : (as.map key).Pairwise (· < ·)) : sortOn key as = as :=
  foldl_insertOn_eq_append h

end Sorting

theorem lookup_filter_ne {α β : Type} [BEq α] [LawfulBEq α] {entries : List (α × β)} {k k' : α}
    (h : k' ≠ k) : (entries.filter fun e => e.1 != k).lookup k' = entries.lookup k' := by
  induction entries with
  | nil => rfl
  | cons e entries ih =>
    obtain ⟨key, r⟩ := e
    by_cases hkey : key = k
    · have hne : (k' == key) = false := beq_eq_false_iff_ne.mpr (hkey ▸ h)
      rw [List.filter_cons_of_neg (by simp [hkey]), ih, List.lookup_cons, hne]
    · rw [List.filter_cons_of_pos (by simpa using hkey), List.lookup_cons, List.lookup_cons, ih]

section FirstSeen

variable {α : Type} [BEq α] [LawfulBEq α] (xs : List α)

theorem mem_foldl_seen (seen : List α) (a : α) :
    a ∈ xs.foldl (fun seen x => if seen.contains x then seen else seen ++ [x]) seen ↔
      a ∈ seen ∨ a ∈ xs := by
  induction xs generalizing seen with
  | nil => simp
  | cons x xs ih =>
    rw [List.foldl_cons, ih, List.mem_cons]
    split_ifs with hx
    · have hx : x ∈ seen := List.contains_iff_mem.mp hx
      constructor
      · rintro (ha | ha)
        · exact .inl ha
        · exact .inr (.inr ha)
      · rintro (ha | rfl | ha)
        · exact .inl ha
        · exact .inl hx
        · exact .inr ha
    · rw [List.mem_append, List.mem_singleton, or_assoc]

theorem mem_firstSeen {a : α} : a ∈ firstSeen xs ↔ a ∈ xs := by
  rw [firstSeen, mem_foldl_seen]
  simp

theorem firstSeen_concat (x : α) :
    firstSeen (xs ++ [x]) = if xs.contains x then firstSeen xs else firstSeen xs ++ [x] := by
  have hmem : (firstSeen xs).contains x = xs.contains x := by
    rw [Bool.eq_iff_iff, List.contains_iff_mem, List.contains_iff_mem, mem_firstSeen]
  rw [firstSeen, List.foldl_append, List.foldl_cons, List.foldl_nil, ← firstSeen, hmem]

/-- **The first occurrences in two lists** are those in the first, and then those in the second that
are not in the first. -/
theorem firstSeen_append (ys : List α) :
    firstSeen (xs ++ ys) = firstSeen xs ++ (firstSeen ys).filter fun y => !xs.contains y := by
  induction ys using List.reverseRecOn with
  | nil => simp [firstSeen]
  | append_singleton ys y ih =>
    rw [← List.append_assoc, firstSeen_concat, firstSeen_concat, ih]
    by_cases hy : y ∈ ys
    · simp [hy]
    · by_cases hx : y ∈ xs
      · simp [hx, hy]
      · simp [hx, hy]

theorem firstSeen_nodup : (firstSeen xs).Nodup := by
  induction xs using List.reverseRecOn with
  | nil => exact List.nodup_nil
  | append_singleton xs x ih =>
    rw [firstSeen_concat]
    split_ifs with hx
    · exact ih
    · refine List.nodup_append.mpr ⟨ih, List.pairwise_singleton _ x, fun a ha b hb hab => hx ?_⟩
      rw [← List.mem_singleton.mp hb, ← hab]
      exact List.contains_iff_mem.mpr ((mem_firstSeen xs).mp ha)

theorem firstSeen_ordered : (firstSeen xs).Pairwise fun a b => xs.idxOf a < xs.idxOf b := by
  induction xs using List.reverseRecOn with
  | nil => exact List.Pairwise.nil
  | append_singleton xs x ih =>
    -- What stands in front of the new element keeps its place.
    have hkeep : (firstSeen xs).Pairwise fun a b =>
        (xs ++ [x]).idxOf a < (xs ++ [x]).idxOf b := by
      refine ih.imp_of_mem fun ha hb hab => ?_
      rwa [List.idxOf_append_of_mem ((mem_firstSeen xs).mp ha),
        List.idxOf_append_of_mem ((mem_firstSeen xs).mp hb)]
    rw [firstSeen_concat]
    split_ifs with hx
    · exact hkeep
    · refine List.pairwise_append.mpr ⟨hkeep, List.pairwise_singleton _ x, fun a ha b hb => ?_⟩
      have ha : a ∈ xs := (mem_firstSeen xs).mp ha
      have hb : b ∉ xs := fun hb' => hx (List.contains_iff_mem.mpr (List.mem_singleton.mp hb ▸ hb'))
      rw [List.idxOf_append_of_mem ha, List.idxOf_append_of_notMem hb]
      exact Nat.lt_add_right _ (List.idxOf_lt_length_of_mem ha)

end FirstSeen

end LayerCode.Text
