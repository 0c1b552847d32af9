import Mathlib.Data.List.Forall2
import LayerCode.Graph.Basic
import LayerCode.Proofs.Tensor.Shape
import LayerCode.Proofs.Text.Listing

/-!
# Well-formed nodes and graphs

What a node was checked for when it was made, stated of the node itself, and what the names of a
graph's nodes are.

* `Node.WellFormed`, `Graph.WellFormed`;
* `Node.make_cases`: everything that making a node checks and gives;
* **`Node.make_wellFormed`**, `Node.make_of_wellFormed`: the nodes that are made are well formed,
  and a well-formed node can be made again;
* `Graph.make_eq_ok_iff`, `Graph.make_of_wellFormed`: the same for graphs.
-/

namespace LayerCode

open Text Outcome

/-! ## Declared names -/

theorem Variant.ofCode?_code (v : Variant) : Variant.ofCode? v.code = some v := by
  cases v <;> rfl

theorem Variant.declaredWeights_sorted (v : Variant) :
    (sortOn id v.declaredWeights).Pairwise (· < ·) := by
  cases v <;> decide

/-! ## Nodes -/

namespace Node

/-- The record is one of the variant's type without a fault, and the weights are the declared ones,
in order of their names, with shapes that hold their values. -/
structure WellFormed (n : Node) : Prop where
  record : ∃ a, n.attrs = some a ∧ a.kind = n.variant.record ∧ a.check = .ok ()
  names : n.weights.map Tensor.name = sortOn id n.variant.declaredWeights
  tensors : ∀ t ∈ n.weights, t.Valid
  reuse : 0 < n.reuseFactor

theorem WellFormed.sorted {n : Node} (h : n.WellFormed) :
    (n.weights.map Tensor.name).Pairwise (· < ·) := by
  rw [h.names]
  exact n.variant.declaredWeights_sorted

theorem WellFormed.nodup {n : Node} (h : n.WellFormed) : (n.weights.map Tensor.name).Nodup :=
  h.sorted.imp ne_of_lt

theorem weight?_eq_some {n : Node} (h : (n.weights.map Tensor.name).Nodup) {t : Tensor}
    (ht : t ∈ n.weights) : n.weight? t.name = some t := by
  have hn := List.pairwise_map.mp h
  obtain ⟨us, vs, huv⟩ := List.append_of_mem ht
  rw [huv, List.pairwise_append] at hn
  rw [weight?, List.find?_eq_some_iff_append]
  refine ⟨beq_self_eq_true _, us, vs, huv, fun u hu => ?_⟩
  have hne := hn.2.2 u hu t List.mem_cons_self
  simpa using hne

theorem checkVariant_eq_ok {code : UInt8} {v : Variant} :
    checkVariant code = .ok v ↔ Variant.ofCode? code = some v := by
  unfold checkVariant
  split <;> simp_all

theorem checkRecord_eq_ok {v : Variant} {attrs : Option Attributes} {a : Attributes} :
    checkRecord v attrs = .ok a ↔ attrs = some a ∧ a.kind = v.record ∧ a.check = .ok () := by
  cases attrs with
  | none => simp [checkRecord]
  | some b =>
    rw [checkRecord, Option.some.injEq]
    split_ifs with hk
    · simp only [false_iff, not_and]
      rintro rfl hk'
      exact absurd hk' hk
    · rw [not_not] at hk
      cases hc : b.check with
      | error f =>
        simp only [reduceCtorEq, false_iff, not_and]
        rintro rfl _
        simp [hc]
      | ok u =>
        rw [Except.ok.injEq]
        constructor
        · rintro rfl
          exact ⟨rfl, hk, hc⟩
        · exact fun h => h.1

theorem checkWeights_eq_ok {v : Variant} {weights ws : List Tensor} :
    checkWeights v weights = .ok ws ↔ (weights.map Tensor.name).Nodup ∧
      ws = sortOn Tensor.name weights ∧ ws.map Tensor.name = sortOn id v.declaredWeights := by
  unfold checkWeights
  split
  · next w hw =>
    simp [not_nodup_of_firstRepeated hw]
  · next hw =>
    have hn := (firstRepeated_eq_none_iff.mp hw).1
    simp only [hn, true_and]
    split_ifs with hs
    · rw [Except.ok.injEq]
      constructor
      · rintro rfl
        exact ⟨rfl, hs⟩
      · exact fun h => h.1.symm
    · simp only [false_iff, not_and]
      rintro rfl h
      exact hs h

/-- **What making a node checks, and what it gives.** -/
theorem make_cases {spec : NodeSpec} {n : Node} (h : make spec = .ok n) :
    ∃ v a, Variant.ofCode? spec.variant = some v ∧ spec.attrs = some a ∧ a.kind = v.record ∧
      a.check = .ok () ∧ (spec.weights.map Tensor.name).Nodup ∧
      (sortOn Tensor.name spec.weights).map Tensor.name = sortOn id v.declaredWeights ∧
      n = { name := spec.name, index := spec.index, strategy := spec.strategy
            reuseFactor := if spec.reuseFactor ≤ 0 then 1 else spec.reuseFactor
            input := spec.input, output := spec.output, attrs := some a, variant := v
            weights := sortOn Tensor.name spec.weights, layout := .untransformed } := by
  rw [make, mapError_eq_ok] at h
  obtain ⟨v, hv, h⟩ := bind_eq_ok.mp h
  obtain ⟨a, ha, h⟩ := bind_eq_ok.mp h
  obtain ⟨ws, hw, h⟩ := bind_eq_ok.mp h
  obtain ⟨hattrs, hkind, hcheck⟩ := checkRecord_eq_ok.mp ha
  obtain ⟨hn, rfl, hs⟩ := checkWeights_eq_ok.mp hw
  exact ⟨v, a, checkVariant_eq_ok.mp hv, hattrs, hkind, hcheck, hn, hs, (Except.ok.inj h).symm⟩

/-- **A node that was made of valid tensors is well formed.** -/
theorem make_wellFormed {spec : NodeSpec} {n : Node} (h : make spec = .ok n)
    (ht : ∀ t ∈ spec.weights, t.Valid) : n.WellFormed := by
  obtain ⟨v, a, -, -, hkind, hcheck, -, hs, rfl⟩ := make_cases h
  refine ⟨⟨a, rfl, hkind, hcheck⟩, hs, fun t hmem => ?_, ?_⟩
  · exact ht t ((sortOn_perm Tensor.name spec.weights).mem_iff.mp hmem)
  · show 0 < if spec.reuseFactor ≤ 0 then 1 else spec.reuseFactor
    split_ifs with hr
    · decide
    · exact Int64.not_le.mp hr

/-- What a node could be made of. -/
def spec (n : Node) : NodeSpec where
  name := n.name
  index := n.index
  variant := n.variant.code
  strategy := n.strategy
  reuseFactor := n.reuseFactor
  input := n.input
  output := n.output
  attrs := n.attrs
  weights := n.weights

/-- A well-formed node can be made again, with its weights in their first order. -/
theorem make_of_wellFormed {n : Node} (h : n.WellFormed) :
    make n.spec = .ok { n with layout := .untransformed } := by
  obtain ⟨a, ha, hkind, hcheck⟩ := h.record
  have hv : checkVariant n.spec.variant = .ok n.variant :=
    checkVariant_eq_ok.mpr n.variant.ofCode?_code
  have hr : checkRecord n.variant n.spec.attrs = .ok a := checkRecord_eq_ok.mpr ⟨ha, hkind, hcheck⟩
  have hw : checkWeights n.variant n.spec.weights = .ok n.weights :=
    checkWeights_eq_ok.mpr ⟨h.nodup, (sortOn_eq_self h.sorted).symm, h.names⟩
  have hreuse : (if n.spec.reuseFactor ≤ 0 then 1 else n.spec.reuseFactor) = n.reuseFactor :=
    if_neg (Int64.not_le.mpr h.reuse)
  simp only [make, hv, hr, hw, hreuse, ok_bind, pure_eq_ok, mapError_ok]
  rw [← ha]
  rfl

end Node

/-! ## Graphs -/

namespace Graph

/-- The nodes are well formed, their names are distinct, and each is listed under its name. -/
structure WellFormed (g : Graph) : Prop where
  listed : ∀ e ∈ g.entries, e.1 = e.2.name
  distinct : (g.entries.map Prod.fst).Nodup
  nodes : ∀ e ∈ g.entries, e.2.WellFormed

theorem WellFormed.node {g : Graph} (h : g.WellFormed) {n : Node} (hn : n ∈ g.nodes) :
    n.WellFormed := by
  obtain ⟨e, he, rfl⟩ := List.mem_map.mp hn
  exact h.nodes e he

theorem WellFormed.map_name {g : Graph} (h : g.WellFormed) :
    g.nodes.map Node.name = g.entries.map Prod.fst := by
  rw [Graph.nodes, List.map_map]
  exact List.map_congr_left fun e he => (h.listed e he).symm

theorem make_eq_ok_iff {name : String} {nodes : List Node} {g : Graph} :
    make name nodes = .ok g ↔
      (nodes.map Node.name).Nodup ∧ g = ⟨name, nodes.map fun n => (n.name, n)⟩ := by
  unfold make
  split
  · next w hw =>
    simp [not_nodup_of_firstRepeated hw]
  · next hw =>
    have hn := (firstRepeated_eq_none_iff.mp hw).1
    simp [hn, eq_comm]

theorem exists_make (name : String) {nodes : List Node} (h : (nodes.map Node.name).Nodup) :
    ∃ g, make name nodes = .ok g ∧ g.name = name ∧ g.nodes = nodes :=
  ⟨_, make_eq_ok_iff.mpr ⟨h, rfl⟩, rfl, by simp [Graph.nodes, Function.comp_def]⟩

theorem make_wellFormed {name : String} {nodes : List Node} {g : Graph}
    (h : make name nodes = .ok g) (hn : ∀ n ∈ nodes, n.WellFormed) : g.WellFormed := by
  obtain ⟨hd, rfl⟩ := make_eq_ok_iff.mp h
  refine ⟨?_, by simpa [Function.comp_def] using hd, ?_⟩
  · simp
  · simpa using hn

/-- A well-formed graph is made of its nodes. -/
theorem make_of_wellFormed {g : Graph} (h : g.WellFormed) : make g.name g.nodes = .ok g := by
  have hkeys : g.entries.map (fun e => (e.2.name, e.2)) = g.entries := by
    conv_rhs => rw [← List.map_id g.entries]
    refine List.map_congr_left fun e he => ?_
    rw [← h.listed e he]
    rfl
  refine make_eq_ok_iff.mpr ⟨h.map_name ▸ h.distinct, ?_⟩
  rw [nodes, List.map_map, Function.comp_def, hkeys]

end Graph

end LayerCode
