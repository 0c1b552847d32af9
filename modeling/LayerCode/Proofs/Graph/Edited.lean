import Mathlib.Algebra.BigOperators.Ring.Finset
import Mathlib.Algebra.Ring.Int.Defs
import Mathlib.Logic.Relation
import LayerCode.Proofs.Graph.Built
import LayerCode.Proofs.Snapshot.Attributes

/-!
# Graphs stay consistent

What is promised of the layers of a graph and of their names holds of every graph that can be built,
and after every edit: a node is marked, the resource pass changes a node, passes run, or code is
generated. It makes no difference whether an edit succeeds, or at which node it fails, since passes
change a graph one node after the other.

* `Touch`: one node is marked, or changed by the resource pass;
* `Pass.Modest`: a pass that changes graphs by touches only;
* **`Pass.sweep_touches`**, **`Pass.run_touches`**: so do runs of such passes, however they end;
* `Edit`: what can be done with a graph;
* `Node.Consistent`, `Graph.Consistent`: the promises;
* **`Graph.Built.consistent_after`**.
-/

namespace LayerCode

open Text Outcome Relation

namespace Graph

variable {g h : Graph}

/-- One node of the graph is marked, or changed by the resource pass. -/
inductive Touch (g : Graph) : Graph → Prop where
  | mark {i : Nat} {n : Node} : g.node? i = some n → Touch g (g.setNode i n.markTransformed)
  | transform (i : Nat) : Touch g (Resource.transform () g i).graph

theorem Touch.wellFormed (ht : Touch g h) (hw : g.WellFormed) : h.WellFormed := by
  cases ht with
  | mark hn => exact hw.mark hn
  | transform i => exact wellFormed_of_reordered hw (Resource.transform_changed hw () i)

end Graph

/-! ## Runs of passes -/

/-- The pass changes graphs by marking nodes and as the resource pass does, if at all. -/
def Pass.Modest {σ : Type} (p : Pass σ) : Prop :=
  ∀ s g i, ReflTransGen Graph.Touch g (p.transform s g i).graph

theorem Resource.pass_modest {σ : Type} : (pass : Pass σ).Modest := by
  intro s g i
  have hstate : ((pass : Pass σ).transform s g i).graph = (transform () g i).graph := by
    simp only [pass, transform]
    split
    · rfl
    · split <;> rfl
  rw [hstate]
  exact .single (.transform i)

namespace Pass

variable {σ : Type}

theorem applyAt_graph (p : Pass σ) (i : Nat) (n : Node) (cur : Progress σ) :
    (applyAt p i n cur).1.graph = (p.transform cur.state cur.graph i).graph := by
  unfold applyAt
  dsimp only
  split <;> rfl

/-- **A sweep of modest passes touches nodes one after the other**, up to its end, a restart or a
fault. -/
theorem sweep_touches {steps : List (Nat × Pass σ)} (hm : ∀ e ∈ steps, e.2.Modest) (applied : Nat)
    (cur : Progress σ) : ReflTransGen Graph.Touch cur.graph (sweep steps applied cur).1.graph := by
  induction steps generalizing applied cur with
  | nil => exact .refl
  | cons e steps ih =>
    obtain ⟨i, p⟩ := e
    have hrest := ih fun e he => hm e (List.mem_cons_of_mem _ he)
    rw [sweep]
    split
    · exact hrest applied cur
    · next n _ =>
      split_ifs
      · have hstep : ReflTransGen Graph.Touch cur.graph (applyAt p i n cur).1.graph := by
          rw [applyAt_graph]
          exact hm (i, p) List.mem_cons_self cur.state cur.graph i
        split
        · next heq => simpa only [heq] using hstep
        · next heq => simpa only [heq] using hstep
        · next heq =>
          rw [heq] at hstep
          exact hstep.trans (hrest _ _)
      · exact hrest applied cur

theorem runFrom_touches {passes : List (Pass σ)} (hm : ∀ p ∈ passes, p.Modest) (canceled : Bool)
    (left : Nat) (cur : Progress σ) :
    ReflTransGen Graph.Touch cur.graph (runFrom passes canceled left cur).1.graph := by
  induction left generalizing cur with
  | zero => exact .refl
  | succ left ih =>
    have hsteps : ∀ e ∈ steps passes cur.graph, e.2.Modest := by
      intro e he
      obtain ⟨i, -, he⟩ := List.mem_flatMap.mp he
      obtain ⟨p, hp, rfl⟩ := List.mem_map.mp he
      exact hm p hp
    have hsweep := sweep_touches hsteps 0 cur
    rw [runFrom]
    split_ifs
    · exact .refl
    · split
      · next heq => simpa only [heq] using hsweep
      · next heq => simpa only [heq] using hsweep
      · next heq =>
        rw [heq] at hsweep
        exact hsweep.trans (ih _)

/-- **A run of modest passes touches nodes one after the other**, however it ends. -/
theorem run_touches {passes : List (Pass σ)} (hm : ∀ p ∈ passes, p.Modest) (canceled : Bool) (s : σ)
    (g : Graph) : ReflTransGen Graph.Touch g (run passes canceled s g).1.graph :=
  runFrom_touches hm canceled maxSweeps ⟨s, g, {}⟩

end Pass

theorem compile_touches (t : Target) (canceled : Bool) (g : Graph) :
    ReflTransGen Graph.Touch g (compile t canceled g).graph := by
  rcases compile_graph t canceled g with h | h
  · rw [h]
  · rw [h]
    exact Pass.run_touches (by simpa using Resource.pass_modest) canceled () g

/-! ## Edits -/

namespace Graph

variable {g h : Graph}

/-- What can be done with a graph, whether it succeeds or not. -/
inductive Edit (g : Graph) : Graph → Prop where
  | touch {h : Graph} : Touch g h → Edit g h
  | run {σ : Type} {passes : List (Pass σ)} (canceled : Bool) (s : σ) :
      (∀ p ∈ passes, p.Modest) → Edit g (Pass.run passes canceled s g).1.graph
  | compile (t : Target) (canceled : Bool) : Edit g (compile t canceled g).graph

theorem Edit.touches (he : Edit g h) : ReflTransGen Touch g h := by
  cases he with
  | touch ht => exact .single ht
  | run canceled s hm => exact Pass.run_touches hm canceled s g
  | compile t canceled => exact compile_touches t canceled g

theorem WellFormed.touched (hw : g.WellFormed) (ht : ReflTransGen Touch g h) : h.WellFormed := by
  induction ht with
  | refl => exact hw
  | tail _ htouch ih => exact htouch.wellFormed ih

/-- **Edits keep graphs well formed.** -/
theorem WellFormed.edited (hw : g.WellFormed) (he : ReflTransGen Edit g h) : h.WellFormed := by
  induction he with
  | refl => exact hw
  | tail _ hedit ih => exact ih.touched hedit.touches

end Graph

/-! ## What is promised of layers -/

theorem Attributes.value_of_required (a : Attributes) :
    ∀ f ∈ a.fields, f.required = true → ∃ n, f.value = .count n := by
  cases a <;>
    simp [fields, DenseAttrs.fields, Conv1DAttrs.fields, Conv2DAttrs.fields, RecurrentAttrs.fields,
      AttentionAttrs.fields, Pooling1DAttrs.fields, Pooling2DAttrs.fields,
      GlobalPooling1DAttrs.fields, GlobalPooling2DAttrs.fields, Field.size, Field.amount,
      Field.flag, Field.poolOp, Field.dataFormat]

/-- The required numbers of a record without a fault are positive. -/
theorem Attributes.positive_of_check {a : Attributes} (h : a.check = .ok ()) :
    ∀ f ∈ a.fields, f.required = true → ∃ n, f.value = .count n ∧ 0 < n := by
  intro f hf hreq
  obtain ⟨n, hn⟩ := a.value_of_required f hf hreq
  have hmem : (f.tag, n) ∈ sortOn Prod.fst a.required := by
    rw [(sortOn_perm Prod.fst a.required).mem_iff, required, List.mem_filterMap]
    exact ⟨f, hf, by simp [hreq, hn]⟩
  unfold check at h
  split_ifs at h
  split at h
  · exact absurd h (by simp)
  · next hnone =>
    have hpos := List.find?_eq_none.mp hnone _ hmem
    exact ⟨n, hn, Int64.not_le.mp (by simpa using hpos)⟩

/-- The axes, multiplied without a bound, are as many as the values. -/
theorem Tensor.Valid.prod_eq {t : Tensor} (hv : t.Valid) :
    (t.shape.map Int64.toInt).prod = t.data.size := by
  have hextents : t.shape.map Int64.toInt = (extents t.shape).map Nat.cast := by
    rw [extents, List.map_map]
    exact List.map_congr_left fun d hd => (toInt_eq_toNat (hv.positive d hd)).1
  rw [hextents, ← Nat.cast_list_prod, ← volume_eq_prod, hv.count]

/-- What is promised of a layer: a variant that is declared, a record of its type with positive
required numbers and a reduction that is set, the weights that the variant declares, each under its
name and with a shape that holds its values, and a reuse factor of at least one. -/
structure Node.Consistent (n : Node) : Prop where
  variant : n.variant ∈ Variant.all
  record : ∃ a, n.attrs = some a ∧ a.kind = n.variant.record ∧
    (∀ f ∈ a.fields, f.required = true → ∃ k, f.value = .count k ∧ 0 < k) ∧
    ∀ p, a.poolOp? = some p → p = .max ∨ p = .average
  declared : n.weightNames.Perm n.variant.declaredWeights
  weights : ∀ t ∈ n.weights, n.weight? t.name = some t
  shapes : ∀ t ∈ n.weights, t.shape ≠ [] ∧ (∀ d ∈ t.shape, 0 < d) ∧
    (t.shape.map Int64.toInt).prod = t.data.size
  reuse : 1 ≤ n.reuseFactor

theorem Node.WellFormed.consistent {n : Node} (h : n.WellFormed) : n.Consistent := by
  obtain ⟨a, ha, hkind, hcheck⟩ := h.record
  refine ⟨?_, ⟨a, ha, hkind, Attributes.positive_of_check hcheck, fun p hp => ?_⟩, ?_,
    fun t ht => h.weight?_eq_some ht, fun t ht => ?_, ?_⟩
  · cases n.variant <;> decide
  · simpa [PoolOp.declared] using Attributes.declared_of_check hcheck p hp
  · rw [weightNames, h.names]
    exact sortOn_perm id n.variant.declaredWeights
  · have hv := h.tensors t ht
    exact ⟨hv.axes, hv.positive, hv.prod_eq⟩
  · have hr := h.reuse
    rw [Int64.lt_iff_toInt_lt] at hr
    rw [Int64.le_iff_toInt_le]
    exact hr

namespace Graph

variable {g h : Graph}

/-- What is promised of a graph: its layers are consistent, their names are distinct, and each is
found under its name and at its place. -/
structure Consistent (g : Graph) : Prop where
  nodes : ∀ n ∈ g.nodes, n.Consistent
  distinct : (g.nodes.map Node.name).Nodup
  placed : ∀ i n, g.node? i = some n → g.find? n.name = some n ∧ g.position? n.name = some i
  found : ∀ name n, g.find? name = some n → n.name = name

theorem WellFormed.entry {i : Nat} {n : Node} (hw : g.WellFormed) (hn : g.node? i = some n) :
    g.entries[i]? = some (n.name, n) := by
  obtain ⟨e, he, rfl⟩ := Option.map_eq_some_iff.mp hn
  rw [he, ← hw.listed e (List.mem_of_getElem? he)]

/-- A node is the first one that is listed under its name. -/
theorem WellFormed.placed {i : Nat} {n : Node} (hw : g.WellFormed) (hn : g.node? i = some n) :
    g.find? n.name = some n ∧ g.position? n.name = some i := by
  obtain ⟨hi, he⟩ := List.getElem?_eq_some_iff.mp (hw.entry hn)
  have hfirst : ∀ j, (hj : j < i) → g.entries[j].1 ≠ n.name := by
    intro j hj heq
    have hne := List.pairwise_iff_getElem.mp hw.distinct j i (by simp; omega) (by simpa) hj
    simp [heq, he] at hne
  constructor
  · have hsplit : g.entries = g.entries.take i ++ (n.name, n) :: g.entries.drop (i + 1) := by
      rw [← he, List.getElem_cons_drop, List.take_append_drop]
    rw [find?, List.lookup_eq_some_iff]
    refine ⟨_, _, hsplit, fun e hmem => ?_⟩
    obtain ⟨j, hj, rfl⟩ := List.mem_take_iff_getElem.mp hmem
    simpa using (hfirst j (by omega)).symm
  · rw [position?, List.findIdx?_eq_some_iff_getElem]
    exact ⟨hi, by simp [he], fun j hj => by simpa using hfirst j hj⟩

theorem WellFormed.consistent (hw : g.WellFormed) : g.Consistent where
  nodes n hn := (hw.node hn).consistent
  distinct := by
    rw [hw.map_name]
    exact hw.distinct
  placed i n hn := hw.placed hn
  found name n hn := by
    obtain ⟨before, after, hentries, -⟩ := List.lookup_eq_some_iff.mp hn
    exact (hw.listed (name, n) (by simp [hentries])).symm

/-- **The graphs that can be built are consistent, and stay so under every sequence of edits.** -/
theorem Built.consistent_after (hb : g.Built) (he : ReflTransGen Edit g h) : h.Consistent := by
  have hw : h.WellFormed := hb.wellFormed.edited he
  exact hw.consistent

/-- A dense layer is reordered in a run of two passes and marked afterwards. -/
theorem Built.consistent_after_dense :
    (denseGraph "Resource").Built ∧ ∃ g₁ g₂ n, Edit (denseGraph "Resource") g₁ ∧ Edit g₁ g₂ ∧
      g₁.node? 0 = some n ∧ n.layout = .transformed ∧ g₂.Consistent := by
  have hb := denseGraph_built "Resource"
  have hmodest : ∀ p ∈ [(Resource.pass : Pass Unit), Resource.pass], p.Modest := by
    simpa using Resource.pass_modest
  have hlayout : ((Pass.run [Resource.pass, Resource.pass] false ()
      (denseGraph "Resource")).1.graph.node? 0).map Node.layout = some .transformed := by
    decide +kernel
  obtain ⟨n, hn, hl⟩ := Option.map_eq_some_iff.mp hlayout
  have hrun : Edit (denseGraph "Resource") _ := .run false () hmodest
  have hmark : Edit _ _ := .touch (.mark hn)
  have hedits := (ReflTransGen.single hrun).tail hmark
  exact ⟨hb, _, _, n, hrun, hmark, hn, hl, hb.consistent_after hedits⟩

end Graph

end LayerCode
