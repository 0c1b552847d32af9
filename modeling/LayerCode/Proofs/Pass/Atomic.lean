import LayerCode.Proofs.Graph.Built
import LayerCode.Proofs.Tensor.Permutation

/-!
# All weights of a node or none

The resource pass computes the new contents of every weight before it changes one. So a node is
changed as a whole, or not at all, and what becomes of its weights can be read off value by value.

* `Layout.RowsAsColumns`, `Layout.FiltersFirst`: the two ways in which contents are moved;
* `Node.Streamed`: a node with its weights in streaming order, and nothing else changed;
* `Node.Accepted`: the nodes that are made, marked or not;
* `Resource.transform_cases`: what the pass does with a node of a graph;
* **`Resource.transform_atomic`**: when it changes the node, when it fails, and what it leaves.
-/

namespace LayerCode

open Text Outcome

/-! ## Contents -/

namespace Layout

/-- The value in row `i` and column `j` stands in row `j` and column `i`, with a NaN made quiet. -/
def RowsAsColumns (l m : Layout) : Prop :=
  ∃ rows cols, l.shape = [rows, cols] ∧ m.shape = [cols, rows] ∧ m.data.size = l.data.size ∧
    ∀ i j, i < rows.toNatClampNeg → j < cols.toNatClampNeg →
      ∃ v, l.value? [i, j] = some v ∧ m.value? [j, i] = some (Tensor.quiet v)

/-- The last axis, that of the filters, comes to the front of the others: the value at the index
`w, c, f` stands at `f, w, c`, and that at `h, w, c, f` at `f, h, w, c`. -/
def FiltersFirst (others : Nat) (l m : Layout) : Prop :=
  ∃ front filters, front.length = others ∧ l.shape = front ++ [filters] ∧
    m.shape = filters :: front ∧ m.data.size = l.data.size ∧
    ∀ i f, Tensor.InRange (Tensor.extents front) i → f < filters.toNatClampNeg →
      ∃ v, l.value? (i ++ [f]) = some v ∧ m.value? (f :: i) = some v

end Layout

namespace Tensor

variable {t : Tensor} {l : Layout}

theorem Transposed.rowsAsColumns (hv : t.Valid) (h : Transposed t l) :
    t.layout.RowsAsColumns l := by
  obtain ⟨rows, cols, hs, hls⟩ := h.shape
  refine ⟨rows, cols, hs, hls, h.size, fun i j hi hj => ?_⟩
  have hij : InRange (extents t.shape) [i, j] := by
    rw [hs]
    exact inRange_pair.mpr ⟨hi, hj⟩
  obtain ⟨v, hvalue⟩ := hv.exists_value? hij
  refine ⟨v, hvalue, (h.moved i j hij).trans ?_⟩
  exact congrArg (Option.map quiet) hvalue

theorem Permuted.filtersFirst (hv : t.Valid) {axes : List Int64} {others : Nat}
    (hr : t.rank = others + 1)
    (haxes : ∀ {α : Type} (xs : List α) (x : α), xs.length = others →
      pick axes (xs ++ [x]) = x :: xs)
    (h : Permuted axes t l) : t.layout.FiltersFirst others l := by
  obtain ⟨front, filters, hs⟩ : ∃ front filters, t.shape = front ++ [filters] := by
    rcases List.eq_nil_or_concat' t.shape with hnil | ⟨front, filters, hs⟩
    · exact absurd hnil hv.axes
    · exact ⟨front, filters, hs⟩
  have hfront : front.length = others := by
    rw [rank, hs, List.length_append, List.length_singleton] at hr
    omega
  refine ⟨front, filters, hfront, hs, ?_, h.size, fun i f hi hf => ?_⟩
  · rw [h.shape, hs, haxes front filters hfront]
  · have hin : InRange (extents t.shape) (i ++ [f]) := by
      rw [hs, extents, List.map_append]
      exact List.rel_append hi (.cons hf .nil)
    have hlen : i.length = others := (length_of_inRange hi).trans hfront
    obtain ⟨v, hvalue⟩ := hv.exists_value? hin
    refine ⟨v, hvalue, ?_⟩
    have hmoved := h.moved _ hin
    rw [haxes i f hlen] at hmoved
    exact hmoved.trans hvalue

theorem pick_filters1D {α : Type} (xs : List α) (x : α) (h : xs.length = 2) :
    pick [2, 0, 1] (xs ++ [x]) = x :: xs := by
  match xs, h with
  | [_, _], _ => rfl

theorem pick_filters2D {α : Type} (xs : List α) (x : α) (h : xs.length = 3) :
    pick [3, 0, 1, 2] (xs ++ [x]) = x :: xs := by
  match xs, h with
  | [_, _, _], _ => rfl

end Tensor

/-! ## Weights -/

namespace Variant

/-- How the weights that a variant has a rule for are moved. -/
def Streams : Variant → Layout → Layout → Prop
  | .dense | .lstm | .gru => Layout.RowsAsColumns
  | .conv1D | .separableConv1D => Layout.FiltersFirst 2
  | .conv2D | .separableConv2D => Layout.FiltersFirst 3
  | .multiHeadAttention | .pooling1D | .pooling2D | .globalPooling1D | .globalPooling2D => Eq

/-- The axes that the rules of a variant have, if the variant has rules. -/
def ruleAxes : Variant → Option (List Int64)
  | .conv1D | .separableConv1D => some [2, 0, 1]
  | .conv2D | .separableConv2D => some [3, 0, 1, 2]
  | _ => none

theorem axes_of_mem_rules {v : Variant} {r : Rule} (h : r ∈ v.rules) : r.axes = v.ruleAxes := by
  have hall : ∀ v : Variant, ∀ r ∈ v.rules, r.axes = v.ruleAxes := by
    intro v
    cases v <;> decide
  exact hall v r h

theorem streams_of_moves {v : Variant} {r : Rule} (hr : r ∈ v.rules) {t : Tensor} (hv : t.Valid)
    {l : Layout} (h : r.Moves t l) : v.Streams t.layout l := by
  have haxes := axes_of_mem_rules hr
  obtain ⟨weight, axes⟩ := r
  obtain ⟨hrank, hm⟩ := h
  obtain rfl : axes = v.ruleAxes := haxes
  cases v
  case dense | lstm | gru => exact hm.rowsAsColumns hv
  case conv1D | separableConv1D => exact hm.filtersFirst hv hrank Tensor.pick_filters1D
  case conv2D | separableConv2D => exact hm.filtersFirst hv hrank Tensor.pick_filters2D
  -- The other variants have no rule that could have moved the weight.
  all_goals exact absurd hr List.not_mem_nil

theorem ruleFor?_eq_none {v : Variant} {name : String} :
    v.ruleFor? name = none ↔ name ∉ v.rules.map Rule.weight := by
  simp [ruleFor?]

end Variant

/-! ## Nodes -/

namespace Node

/-- The node was made, of tensors that were made, and its weights have been marked or not. -/
def Accepted (n : Node) : Prop :=
  ∃ spec m, (∀ t ∈ spec.weights, Tensor.make t.name t.shape t.data = .ok t) ∧
    make spec = .ok m ∧ (n = m ∨ n = m.markTransformed)

/-- The second node is the first with the weights that its variant has a rule for in streaming
order, and nothing else changed but the layout state. -/
structure Streamed (n m : Node) : Prop where
  rest : m = { n with weights := m.weights, layout := .transformed }
  weights : List.Forall₂ (fun t u => u.name = t.name ∧
    (t.name ∈ n.variant.rules.map Rule.weight → n.variant.Streams t.layout u.layout) ∧
    (t.name ∉ n.variant.rules.map Rule.weight → u = t)) n.weights m.weights

variable {n m : Node}

theorem Accepted.wellFormed (h : n.Accepted) : n.WellFormed := by
  obtain ⟨spec, m, htensors, hmake, hn⟩ := h
  have hm : m.WellFormed := make_wellFormed hmake fun t ht =>
    (Tensor.make_eq_ok_iff.mp (htensors t ht)).2
  rcases hn with rfl | rfl
  · exact hm
  · exact hm.markTransformed

theorem WellFormed.accepted (h : n.WellFormed) : n.Accepted := by
  refine ⟨n.spec, _, fun t ht => Tensor.make_eq_ok_iff.mpr ⟨rfl, h.tensors t ht⟩,
    make_of_wellFormed h, ?_⟩
  cases hl : n.layout with
  | untransformed => exact .inl (by rw [← hl])
  | transformed => exact .inr (by rw [Node.markTransformed, ← hl])

theorem Reordered.streamed (hw : n.WellFormed) (h : n.Reordered m) : n.Streamed m := by
  refine ⟨h.rest, ?_⟩
  have hvalid := (List.forall₂_and_left _ _).mpr ⟨hw.tensors, h.weights⟩
  refine hvalid.imp fun t u ⟨hv, hR⟩ => ⟨hR.name, fun hmem => ?_, fun hmem => ?_⟩
  all_goals unfold Variant.Reorders at hR
  · cases hr : n.variant.ruleFor? t.name with
    | none => exact absurd hmem (Variant.ruleFor?_eq_none.mp hr)
    | some r =>
      rw [hr] at hR
      exact Variant.streams_of_moves (List.mem_of_find?_eq_some hr) hv hR.2
  · rwa [Variant.ruleFor?_eq_none.mpr hmem] at hR

end Node

namespace Graph

theorem setNode_self {g : Graph} {i : Nat} {n : Node} (h : g.node? i = some n) :
    g.setNode i n = g := by
  obtain ⟨e, he, rfl⟩ := Option.map_eq_some_iff.mp h
  have hentries : g.entries.modify i (fun e' => (e'.1, e.2)) = g.entries := by
    refine List.ext_getElem? fun j => ?_
    by_cases hij : i = j
    · subst hij
      simp [he]
    · simp [List.getElem?_modify_ne, hij]
  rw [setNode, hentries]

end Graph

namespace Resource

variable {n m : Node} {g : Graph} {i : Nat}

/-- A node is refused for its variant, or in its first order for a weight with the wrong axes. -/
theorem transformNode_eq_error_iff (hw : n.WellFormed) :
    (∃ fault, transformNode n = .error fault) ↔
      n.variant.resourceRules = none ∨ n.layout = .untransformed ∧ ¬ n.Fits := by
  cases hr : n.variant.resourceRules with
  | none => simp [transformNode, hr]
  | some rules =>
    have hruled : n.variant.resourceRules.isSome = true := by rw [hr, Option.isSome_some]
    cases hl : n.layout with
    | transformed => simp [transformNode, hr, hl]
    | untransformed =>
      by_cases hf : n.Fits
      · obtain ⟨m, hm, -⟩ := transformNode_fit hw hruled hl hf
        simp [hm, hf]
      · obtain ⟨r, -, t, -, -, -, he⟩ := transformNode_misfit hw hruled hl hf
        simp [he, hf]

theorem transformNode_transformed (hl : n.layout = .transformed) (h : transformNode n = .ok m) :
    m = n := by
  unfold transformNode at h
  split at h
  · simp at h
  · rw [if_pos hl] at h
    exact (Except.ok.inj h).symm

theorem transformNode_untransformed (hw : n.WellFormed) (hl : n.layout = .untransformed)
    (h : transformNode n = .ok m) : n.Reordered m := by
  have hno : ¬ ∃ fault, transformNode n = .error fault := by simp [h]
  rw [transformNode_eq_error_iff hw, not_or, not_and_not_right] at hno
  obtain ⟨k, hk, hR⟩ := transformNode_fit hw (Option.isSome_iff_ne_none.mpr hno.1) hl (hno.2 hl)
  exact Except.ok.inj (hk.symm.trans h) ▸ hR

/-- The pass leaves the graph when a node is refused, and puts the changed node in otherwise. -/
theorem transform_cases (hg : g.node? i = some n) {σ : Type} (s : σ) :
    (transform s g i).state = s ∧
      ((∃ fault, transformNode n = .error fault ∧ (transform s g i).restart = .error fault ∧
        (transform s g i).graph = g) ∨
      ∃ m, transformNode n = .ok m ∧ (transform s g i).restart = .ok false ∧
        (transform s g i).graph = g.setNode i m) := by
  cases h : transformNode n with
  | error fault => simp [transform, hg, h]
  | ok m => simp [transform, hg, h]

/-- **A node is changed as a whole or not at all.** There is never a need to start over. The pass
fails exactly for a variant without rules, and for a node in its first order with a weight whose
rule needs another number of axes; it leaves the graph then. A node in its first order gets its
weights in streaming order otherwise, and a node that was marked stays as it is. -/
theorem transform_atomic (ha : n.Accepted) (hg : g.node? i = some n) {σ : Type} (s : σ) :
    (∀ again, (transform s g i).restart = .ok again → again = false) ∧
    ((∃ fault, (transform s g i).restart = .error fault) ↔
      n.variant.resourceRules = none ∨ n.layout = .untransformed ∧
        ∃ r ∈ n.variant.rules, ∃ t ∈ n.weights, t.name = r.weight ∧ t.rank ≠ r.rank) ∧
    (∀ fault, (transform s g i).restart = .error fault → (transform s g i).graph = g) ∧
    (∀ again, (transform s g i).restart = .ok again →
      (n.layout = .untransformed → ∃ m, n.Streamed m ∧
        (transform s g i).graph = g.setNode i m ∧ (transform s g i).graph.node? i = some m) ∧
      (n.layout = .transformed → (transform s g i).graph = g)) ∧
    (transform s g i).state = s := by
  have hw := ha.wellFormed
  have herror := transformNode_eq_error_iff hw
  simp only [Node.Fits, not_forall, exists_prop] at herror
  obtain ⟨hstate, ⟨fault, hfault, hrestart, hgraph⟩ | ⟨m, hm, hrestart, hgraph⟩⟩ :=
    transform_cases hg s
  · rw [← herror]
    simp [hfault, hrestart, hgraph, hstate]
  · refine ⟨by simp [hrestart], by simp [← herror, hm, hrestart], by simp [hrestart],
      fun _ _ => ⟨fun hl => ⟨m, ?_, hgraph, ?_⟩, fun hl => ?_⟩, hstate⟩
    · exact (transformNode_untransformed hw hl hm).streamed hw
    · rw [hgraph]
      exact Graph.node?_setNode_self hg
    · rw [hgraph, transformNode_transformed hl hm]
      exact Graph.setNode_self hg

/-! ### A separable convolution -/

/-- The weights of a separable convolution, with a shape for two pointwise values. -/
def separableWeights (pointwise : List Int64) : List Tensor :=
  [⟨"bias", [1], #[0]⟩, ⟨"depthwise", [2, 1, 2], #[1, 2, 3, 4]⟩, ⟨"pointwise", pointwise, #[5, 6]⟩]

/-- A separable convolution whose weights are in their first order. -/
def separableLayer (pointwise : List Int64) : Node where
  name := "sep"
  index := 1
  strategy := "resource"
  reuseFactor := 1
  input := ⟨"x", "input_t"⟩
  output := ⟨"y", "result_t"⟩
  attrs := some (.conv1D ⟨3, 2, 2, 1, 1, 0, 0, 2, .channelsLast⟩)
  variant := .separableConv1D
  weights := separableWeights pointwise
  layout := .untransformed

theorem separableLayer_accepted {pointwise : List Int64}
    (h : ∀ t ∈ separableWeights pointwise, Tensor.make t.name t.shape t.data = .ok t) :
    (separableLayer pointwise).Accepted := by
  refine Node.WellFormed.accepted ⟨?_, ?_, ?_, ?_⟩
  · exact ⟨.conv1D ⟨3, 2, 2, 1, 1, 0, 0, 2, .channelsLast⟩, rfl, rfl, by decide +kernel⟩
  · show ["bias", "depthwise", "pointwise"] = sortOn id Variant.separableConv1D.declaredWeights
    decide +kernel
  · exact fun t ht => (Tensor.make_eq_ok_iff.mp (h t ht)).2
  · show (0 : Int64) < 1
    decide

/-- Pointwise weights without an axis for the filters leave the depthwise weights as they were; with
one, both are moved. -/
theorem transform_atomic_separable :
    ((separableLayer [2, 1]).Accepted ∧
      (∃ fault, (transform () ⟨"net", [("sep", separableLayer [2, 1])]⟩ 0).restart =
        .error fault) ∧
      (transform () ⟨"net", [("sep", separableLayer [2, 1])]⟩ 0).graph =
        ⟨"net", [("sep", separableLayer [2, 1])]⟩) ∧
    (separableLayer [1, 2, 1]).Accepted ∧
      ∃ m, (separableLayer [1, 2, 1]).Streamed m ∧
        (transform () ⟨"net", [("sep", separableLayer [1, 2, 1])]⟩ 0).graph.node? 0 = some m := by
  have hbad : (separableLayer [2, 1]).Accepted := separableLayer_accepted (by decide +kernel)
  have hgood : (separableLayer [1, 2, 1]).Accepted := separableLayer_accepted (by decide +kernel)
  refine ⟨⟨hbad, ?_⟩, hgood, ?_⟩
  · obtain ⟨-, herror, hkept, -⟩ :=
      transform_atomic (g := ⟨"net", [("sep", separableLayer [2, 1])]⟩) (i := 0) hbad rfl ()
    have hmisfit : ∃ r ∈ Variant.separableConv1D.rules, ∃ t ∈ separableWeights [2, 1],
        t.name = r.weight ∧ t.rank ≠ r.rank := by decide +kernel
    obtain ⟨fault, hfault⟩ := herror.mpr (.inr ⟨rfl, hmisfit⟩)
    exact ⟨⟨fault, hfault⟩, hkept fault hfault⟩
  · obtain ⟨-, herror, -, hok, -⟩ :=
      transform_atomic (g := ⟨"net", [("sep", separableLayer [1, 2, 1])]⟩) (i := 0) hgood rfl ()
    have hfits : ¬ ∃ r ∈ Variant.separableConv1D.rules, ∃ t ∈ separableWeights [1, 2, 1],
        t.name = r.weight ∧ t.rank ≠ r.rank := by decide +kernel
    cases hrestart : (transform () ⟨"net", [("sep", separableLayer [1, 2, 1])]⟩ 0).restart with
    | error fault =>
      rcases herror.mp ⟨fault, hrestart⟩ with hnone | ⟨-, hmisfit⟩
      · exact absurd hnone (by decide)
      · exact absurd hmisfit hfits
    | ok again =>
      obtain ⟨m, hm, -, hnode⟩ := (hok again hrestart).1 rfl
      exact ⟨m, hm, hnode⟩

end Resource

end LayerCode
