import Mathlib.Data.List.Forall2
import LayerCode.Pass.Resource
import LayerCode.Proofs.Graph.WellFormed
import LayerCode.Proofs.Tensor.Reorder

/-!
# What reordering does to a node

A node is reordered as a whole: every weight that its variant has a rule for is moved once, or the
node is refused because one of those weights has the wrong number of axes.

* `Rule.Moves`: the contents of a weight, moved by a rule;
* `Node.Reordered`: a node with its weights moved, and nothing else changed but its layout state;
* `Node.Eligible`, `Node.Fits`: the nodes that are reordered, and those whose weights allow it;
* **`transformNode_fit`**, **`transformNode_misfit`**: a node is reordered, or refused;
* `Reordered.wellFormed`: a reordered node is well formed.
-/

namespace LayerCode

open Text Outcome

/-! ## Rules -/

namespace Rule

/-- How many axes a weight needs for the rule. -/
def rank (r : Rule) : Nat :=
  match r.axes with
  | none => 2
  | some axes => axes.length

/-- The contents are those of the weight, moved by the rule. -/
def Moves (r : Rule) (t : Tensor) (l : Layout) : Prop :=
  t.rank = r.rank ∧
    match r.axes with
    | none => t.Transposed l
    | some axes => t.Permuted axes l

/-- Why the rule cannot move a weight with another number of axes. -/
def misfit (r : Rule) (t : Tensor) : Tensor.Fault :=
  match r.axes with
  | none => .notMatrix t.name t.rank
  | some axes => .rankMismatch t.name axes t.rank

/-- The axes of the rule, if it has any, are numbered once each. -/
def sound (r : Rule) : Bool :=
  match r.axes with
  | none => true
  | some axes => Tensor.isPermutation axes.length axes

theorem apply_fit {r : Rule} (hr : r.sound = true) {t : Tensor} (hv : t.Valid)
    (h : t.rank = r.rank) : ∃ l, r.apply t = .ok l ∧ r.Moves t l := by
  obtain ⟨weight, axes⟩ := r
  cases axes with
  | none =>
    obtain ⟨l, hl, hm⟩ := Tensor.transpose_eq_ok hv h
    exact ⟨l, hl, h, hm⟩
  | some axes =>
    have hp : Tensor.isPermutation t.rank axes = true := by
      rw [h]
      exact hr
    obtain ⟨l, hl, hm⟩ := Tensor.permute_eq_ok hv hp
    exact ⟨l, hl, h, hm⟩

theorem apply_misfit {r : Rule} {t : Tensor} (h : t.rank ≠ r.rank) :
    r.apply t = .error (r.misfit t) := by
  obtain ⟨weight, axes⟩ := r
  cases axes with
  | none => exact Tensor.transpose_of_rank_ne h
  | some axes =>
    show t.permute axes = .error (.rankMismatch t.name axes t.rank)
    have hne : axes.length ≠ t.rank := Ne.symm h
    rw [Tensor.permute, if_pos hne]

theorem Moves.size_eq {r : Rule} {t : Tensor} {l : Layout} (h : r.Moves t l) :
    l.data.size = t.data.size := by
  obtain ⟨weight, axes⟩ := r
  obtain ⟨-, hm⟩ := h
  cases axes with
  | none => exact hm.size
  | some axes => exact hm.size

theorem Moves.length_eq {r : Rule} (hr : r.sound = true) {t : Tensor} {l : Layout}
    (h : r.Moves t l) : l.shape.length = t.shape.length := by
  obtain ⟨weight, axes⟩ := r
  obtain ⟨hrank, hm⟩ := h
  cases axes with
  | none =>
    obtain ⟨rows, cols, ht, hl⟩ := hm.shape
    rw [ht, hl]
    rfl
  | some axes =>
    have hp : Tensor.isPermutation t.shape.length axes = true := by
      rw [show t.shape.length = axes.length from hrank]
      exact hr
    rw [hm.shape, (Tensor.pick_perm hp).length_eq]

theorem Moves.valid {r : Rule} (hr : r.sound = true) {t : Tensor} (hv : t.Valid) {l : Layout}
    (h : r.Moves t l) : (t.replace l).Valid := by
  obtain ⟨weight, axes⟩ := r
  obtain ⟨hrank, hm⟩ := h
  cases axes with
  | none => exact hm.valid hv
  | some axes =>
    refine hm.valid hv ?_
    rw [hrank]
    exact hr

end Rule

namespace Variant

/-- The rules of a variant; a variant without a resource strategy has none. -/
def rules (v : Variant) : List Rule := v.resourceRules.getD []

/-- The rule of a variant for a weight. -/
def ruleFor? (v : Variant) (weight : String) : Option Rule :=
  v.rules.find? fun r => r.weight == weight

/-- The tensor is a weight of the variant after it was moved by the rule for it, if there is one. -/
def Reorders (v : Variant) (t u : Tensor) : Prop :=
  match v.ruleFor? t.name with
  | none => u = t
  | some r => u.name = t.name ∧ r.Moves t u.layout

theorem sound_of_mem_rules {v : Variant} {r : Rule} (h : r ∈ v.rules) : r.sound = true := by
  have hall : ∀ v : Variant, ∀ r ∈ v.rules, r.sound = true := by
    intro v
    cases v <;> decide
  exact hall v r h

theorem weight_mem_declared {v : Variant} {r : Rule} (h : r ∈ v.rules) :
    r.weight ∈ sortOn id v.declaredWeights := by
  have hall : ∀ v : Variant, ∀ r ∈ v.rules, r.weight ∈ sortOn id v.declaredWeights := by
    intro v
    cases v <;> decide
  exact hall v r h

theorem rules_nodup (v : Variant) : (v.rules.map Rule.weight).Nodup := by
  cases v <;> decide

end Variant

/-! ## Nodes -/

namespace Node

/-- The node is one to be reordered: its variant has rules, it asks for the resource strategy in
letters of any case, and it has not been reordered. -/
structure Eligible (n : Node) : Prop where
  ruled : n.variant.resourceRules.isSome = true
  selected : sameWord n.strategy "resource" = true
  first : n.layout = .untransformed

/-- Every weight with a rule has the axes that the rule needs. -/
def Fits (n : Node) : Prop :=
  ∀ r ∈ n.variant.rules, ∀ t ∈ n.weights, t.name = r.weight → t.rank = r.rank

/-- The second node is the first with its weights moved by the rules for them, and nothing else
changed but the layout state. -/
structure Reordered (n m : Node) : Prop where
  rest : m = { n with weights := m.weights, layout := .transformed }
  weights : List.Forall₂ n.variant.Reorders n.weights m.weights

theorem applies_iff {n : Node} : Resource.applies n = true ↔ n.Eligible := by
  simp only [Resource.applies, Resource.supports, Resource.selected, Bool.and_eq_true, beq_iff_eq]
  exact ⟨fun h => ⟨h.1.1, h.1.2, h.2⟩, fun h => ⟨⟨h.ruled, h.selected⟩, h.first⟩⟩

theorem WellFormed.weight?_eq_some {n : Node} (h : n.WellFormed) {t : Tensor}
    (ht : t ∈ n.weights) : n.weight? t.name = some t :=
  Node.weight?_eq_some h.nodup ht

theorem WellFormed.exists_weight {n : Node} (h : n.WellFormed) {r : Rule}
    (hr : r ∈ n.variant.rules) : ∃ t ∈ n.weights, t.name = r.weight := by
  have hmem := Variant.weight_mem_declared hr
  rw [← h.names] at hmem
  exact List.mem_map.mp hmem

end Node

namespace Resource

variable {n : Node}

/-! ## Staging -/

theorem stage_fit (hw : n.WellFormed) {r : Rule} (hr : r ∈ n.variant.rules) {t : Tensor}
    (ht : t ∈ n.weights) (hname : t.name = r.weight) (h : t.rank = r.rank) :
    ∃ l, stage n r = .ok (r.weight, l) ∧ r.Moves t l := by
  obtain ⟨l, hl, hm⟩ := Rule.apply_fit (Variant.sound_of_mem_rules hr) (hw.tensors t ht) h
  refine ⟨l, ?_, hm⟩
  simp only [stage, ← hname, hw.weight?_eq_some ht, hl, mapError_ok, ok_bind, pure_eq_ok]

theorem stage_misfit (hw : n.WellFormed) {r : Rule} {t : Tensor} (ht : t ∈ n.weights)
    (hname : t.name = r.weight) (h : t.rank ≠ r.rank) :
    stage n r = .error (.tensor (r.misfit t)) := by
  simp only [stage, ← hname, hw.weight?_eq_some ht, Rule.apply_misfit h, mapError_error, error_bind]

/-- The weight with the staged contents, if there are any for it. -/
def place (staged : List (String × Layout)) (t : Tensor) : Tensor :=
  match staged.lookup t.name with
  | some l => t.replace l
  | none => t

theorem place_cons {w : String} {l : Layout} {staged : List (String × Layout)}
    (hw : w ∉ staged.map Prod.fst) (t : Tensor) :
    place staged (if t.name = w then t.replace l else t) = place ((w, l) :: staged) t := by
  split_ifs with ht
  · have hnone : staged.lookup (t.replace l).name = none := by
      rw [List.lookup_eq_none_iff]
      intro e he
      have hne : e.1 ≠ w := fun heq => hw (heq ▸ List.mem_map_of_mem he)
      show (t.name != e.1) = true
      rw [ht]
      exact bne_iff_ne.mpr hne.symm
    simp only [place, hnone, List.lookup_cons, ht, beq_self_eq_true]
  · have hne : (t.name == w) = false := beq_eq_false_iff_ne.mpr ht
    simp only [place, List.lookup_cons, hne]

theorem foldl_setWeight {staged : List (String × Layout)} (hd : (staged.map Prod.fst).Nodup)
    (n : Node) : staged.foldl (fun m s => m.setWeight s.1 s.2) n =
      { n with weights := n.weights.map (place staged) } := by
  induction staged generalizing n with
  | nil =>
    have : place [] = id := rfl
    rw [this, List.map_id]
    rfl
  | cons s staged ih =>
    rw [List.map_cons, List.nodup_cons] at hd
    rw [List.foldl_cons, ih hd.2]
    simp only [Node.setWeight, List.map_map, Function.comp_def, place_cons hd.1]

/-- The staged contents for a weight are those of the rule for it. -/
theorem lookup_staged {rules : List Rule} {staged : List (String × Layout)}
    (h : List.Forall₂ (fun r s => stage n r = .ok s ∧ s.1 = r.weight) rules staged)
    (name : String) :
    rules.find? (fun r => r.weight == name) = none ∧ staged.lookup name = none ∨
      ∃ r l, rules.find? (fun r => r.weight == name) = some r ∧ stage n r = .ok (r.weight, l) ∧
        staged.lookup name = some l := by
  induction h with
  | nil => exact .inl ⟨rfl, rfl⟩
  | @cons r s rules staged hs _ ih =>
    obtain ⟨w, l⟩ := s
    obtain ⟨hstage, rfl⟩ := hs
    by_cases hname : r.weight = name
    · refine .inr ⟨r, l, ?_, hstage, ?_⟩
      · rw [List.find?_cons_of_pos (by simpa using hname)]
      · simp only [List.lookup_cons, hname, beq_self_eq_true]
    · have hne : (name == r.weight) = false := beq_eq_false_iff_ne.mpr (Ne.symm hname)
      rw [List.find?_cons_of_neg (by simpa using hname)]
      simpa only [List.lookup_cons, hne] using ih

/-! ## Whole nodes -/

theorem transformNode_first (hr : n.variant.resourceRules.isSome = true)
    (hl : n.layout = .untransformed) :
    transformNode n = (do
      let staged ← n.variant.rules.mapM (stage n)
      pure (commit n staged)) := by
  obtain ⟨rules, hrules⟩ := Option.isSome_iff_exists.mp hr
  have hne : n.layout ≠ .transformed := by
    rw [hl]
    decide
  rw [transformNode, Variant.rules, hrules, Option.getD_some]
  exact if_neg hne

/-- **A node whose weights fit the rules is reordered.** -/
theorem transformNode_fit (hw : n.WellFormed) (hruled : n.variant.resourceRules.isSome = true)
    (hl : n.layout = .untransformed) (hf : n.Fits) :
    ∃ m, transformNode n = .ok m ∧ n.Reordered m := by
  obtain ⟨staged, hstaged, hfor⟩ :
      ∃ staged, n.variant.rules.mapM (stage n) = .ok staged ∧ List.Forall₂
        (fun r s => stage n r = .ok s ∧ s.1 = r.weight) n.variant.rules staged := by
    refine exists_mapM_eq_ok fun r hr => ?_
    obtain ⟨t, ht, hname⟩ := hw.exists_weight hr
    obtain ⟨l, hl, -⟩ := stage_fit hw hr ht hname (hf r hr t ht hname)
    exact ⟨_, hl, rfl⟩
  have hd : (staged.map Prod.fst).Nodup := by
    have : staged.map Prod.fst = n.variant.rules.map Rule.weight := by
      have := hfor.imp fun r s h => h.2
      rw [← List.forall₂_eq_eq_eq, List.forall₂_map_left_iff, List.forall₂_map_right_iff]
      exact this.flip
    rw [this]
    exact n.variant.rules_nodup
  refine ⟨commit n staged, ?_, ?_⟩
  · rw [transformNode_first hruled hl, hstaged, ok_bind, pure_eq_ok]
  · rw [commit, foldl_setWeight hd]
    refine ⟨rfl, ?_⟩
    show List.Forall₂ n.variant.Reorders n.weights (n.weights.map (place staged))
    rw [List.forall₂_map_right_iff, List.forall₂_same]
    intro t ht
    rcases lookup_staged hfor t.name with ⟨hnone, hlook⟩ | ⟨r, l, hfind, hstage, hlook⟩
    · simp only [Variant.Reorders, Variant.ruleFor?, hnone, place, hlook]
    · have hr := List.mem_of_find?_eq_some hfind
      have hbeq := List.find?_some hfind
      have hname : t.name = r.weight := (eq_of_beq hbeq).symm
      obtain ⟨l', hl', hm⟩ := stage_fit hw hr ht hname (hf r hr t ht hname)
      have : l' = l := by simpa [hstage] using hl'.symm
      simp only [Variant.Reorders, Variant.ruleFor?, hfind, place, hlook]
      exact ⟨rfl, this ▸ hm⟩

/-- **A node with a weight that does not fit its rule is refused.** -/
theorem transformNode_misfit (hw : n.WellFormed) (hruled : n.variant.resourceRules.isSome = true)
    (hl : n.layout = .untransformed) (hf : ¬ n.Fits) :
    ∃ r ∈ n.variant.rules, ∃ t ∈ n.weights, t.name = r.weight ∧ t.rank ≠ r.rank ∧
      transformNode n = .error (.tensor (r.misfit t)) := by
  obtain ⟨r, hr, e, hstage, hmap⟩ :
      ∃ r ∈ n.variant.rules, ∃ e, stage n r = .error e ∧
        n.variant.rules.mapM (stage n) = .error e := by
    refine exists_mapM_eq_error ?_
    simp only [Node.Fits, not_forall] at hf
    obtain ⟨r, hr, t, ht, hname, hrank⟩ := hf
    exact ⟨r, hr, _, stage_misfit hw ht hname hrank⟩
  obtain ⟨t, ht, hname⟩ := hw.exists_weight hr
  have hrank : t.rank ≠ r.rank := by
    intro hrank
    obtain ⟨l, hl, -⟩ := stage_fit hw hr ht hname hrank
    simp [hl] at hstage
  rw [stage_misfit hw ht hname hrank, Except.error.injEq] at hstage
  refine ⟨r, hr, t, ht, hname, hrank, ?_⟩
  rw [transformNode_first hruled hl, hmap, error_bind, hstage]

/-- A node that is given back is as it was or reordered. -/
theorem transformNode_cases (hw : n.WellFormed) {m : Node} (h : transformNode n = .ok m) :
    m = n ∨ n.layout = .untransformed ∧ n.Reordered m := by
  cases hr : n.variant.resourceRules with
  | none => simp [transformNode, hr] at h
  | some rules =>
    cases hl : n.layout with
    | transformed =>
      simp only [transformNode, hr, hl, if_true, Except.ok.injEq] at h
      exact .inl h.symm
    | untransformed =>
      have hruled : n.variant.resourceRules.isSome = true := by rw [hr, Option.isSome_some]
      by_cases hf : n.Fits
      · obtain ⟨k, hk, hR⟩ := transformNode_fit hw hruled hl hf
        obtain rfl := Except.ok.inj (hk.symm.trans h)
        exact .inr ⟨rfl, hR⟩
      · obtain ⟨r, -, t, -, -, -, he⟩ := transformNode_misfit hw hruled hl hf
        simp [he] at h

end Resource

/-! ## Reordered nodes -/

namespace Variant.Reorders

variable {v : Variant} {t u : Tensor} (h : v.Reorders t u)

include h in
theorem name : u.name = t.name := by
  unfold Reorders at h
  split at h
  · rw [h]
  · exact h.1

include h in
theorem size_eq : u.data.size = t.data.size := by
  unfold Reorders at h
  split at h
  · rw [h]
  · exact h.2.size_eq

include h in
theorem rank_eq : u.rank = t.rank := by
  unfold Reorders at h
  split at h
  · rw [h]
  · next r hr => exact h.2.length_eq (sound_of_mem_rules (List.mem_of_find?_eq_some hr))

include h in
theorem valid (hv : t.Valid) : u.Valid := by
  unfold Reorders at h
  split at h
  · rwa [h]
  · next r hr =>
    obtain ⟨hname, hm⟩ := h
    have hu : u = t.replace u.layout := by
      rw [Tensor.replace, ← hname]
      rfl
    rw [hu]
    exact hm.valid (sound_of_mem_rules (List.mem_of_find?_eq_some hr)) hv

end Variant.Reorders

namespace Node.Reordered

variable {n m : Node}

theorem wellFormed (h : n.Reordered m) (hw : n.WellFormed) : m.WellFormed := by
  obtain ⟨a, ha, hkind, hcheck⟩ := hw.record
  have hvariant : m.variant = n.variant := by rw [h.rest]
  have hnames : m.weights.map Tensor.name = n.weights.map Tensor.name := by
    rw [← List.forall₂_eq_eq_eq, List.forall₂_map_left_iff, List.forall₂_map_right_iff]
    exact (h.weights.imp fun t u htu => htu.name).flip
  refine ⟨⟨a, by rw [h.rest]; exact ha, by rw [hvariant, hkind], hcheck⟩, ?_, ?_, ?_⟩
  · rw [hnames, hvariant, hw.names]
  · intro u hu
    obtain ⟨t, ht, htu⟩ := exists_of_mem_right h.weights hu
    exact htu.valid (hw.tensors t ht)
  · rw [h.rest]
    exact hw.reuse

end Node.Reordered

end LayerCode
