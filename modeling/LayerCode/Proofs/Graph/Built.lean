import LayerCode.Compile
import LayerCode.Proofs.Pass.Run
import LayerCode.Snapshot.Read

/-!
# Graphs that the program builds

A graph is made of nodes or read from a snapshot, and is then changed by the resource pass, by
itself or when code is generated, and by marking nodes. All these graphs are well formed, which is
what every theorem about them rests on.

* `Graph.Built`: the graphs that can be built;
* `loadNode_wellFormed`, `decode_wellFormed`: what is read from a snapshot is well formed;
* `compile_cases`, `compile_graph`: how far generating code comes, and what it does to the graph;
* **`Built.wellFormed`**: every graph that can be built is well formed.

The last section says what a run of the resource pass does to such a graph.
-/

namespace LayerCode

open Outcome

/-! ## Reading -/

namespace Node

theorem WellFormed.markTransformed {n : Node} (h : n.WellFormed) : n.markTransformed.WellFormed :=
  ⟨h.record, h.names, h.tensors, h.reuse⟩

end Node

namespace Snapshot

theorem loadTensor_valid {e : String × TensorEntry} {t : Tensor} (h : loadTensor e = .ok t) :
    t.Valid := by
  obtain ⟨data, -, hmake⟩ := bind_eq_ok.mp h
  exact (Tensor.make_eq_ok_iff.mp (mapError_eq_ok.mp hmake)).2

theorem loadNode_wellFormed {e : NodeEntry} {n : Node} (h : loadNode e = .ok n) : n.WellFormed := by
  obtain ⟨variant, -, h⟩ := bind_eq_ok.mp h
  obtain ⟨attrs, -, h⟩ := bind_eq_ok.mp h
  obtain ⟨weights, hweights, h⟩ := bind_eq_ok.mp h
  obtain ⟨m, hmake, h⟩ := bind_eq_ok.mp h
  have hvalid : ∀ t ∈ weights, t.Valid := by
    intro t ht
    obtain ⟨e, -, he⟩ := Text.exists_of_mem_right (mapM_eq_ok_iff.mp hweights) ht
    exact loadTensor_valid he
  have hm := Node.make_wellFormed (mapError_eq_ok.mp hmake) hvalid
  rw [pure_eq_ok, Except.ok.injEq] at h
  split_ifs at h
  · exact h ▸ hm.markTransformed
  · exact h ▸ hm

theorem forall₂_loadNodes {graph : String} {i : Nat} {es : List NodeEntry} {ns : List Node}
    (h : loadNodes graph i es = .ok ns) : List.Forall₂ (fun e n => loadNode e = .ok n) es ns := by
  induction es generalizing i ns with
  | nil =>
    rw [loadNodes, Except.ok.injEq] at h
    exact h ▸ .nil
  | cons e es ih =>
    rw [loadNodes] at h
    cases hn : loadNode e with
    | error fault => simp [hn] at h
    | ok n =>
      simp only [hn] at h
      obtain ⟨ms, hms, rfl⟩ := map_eq_ok.mp h
      exact .cons hn (ih hms)

/-- A graph that was read from bytes is well formed. -/
theorem decode_wellFormed {bytes : List UInt8} {g : Graph} (h : decode bytes = .ok g) :
    g.WellFormed := by
  obtain ⟨⟨item, rest⟩, -, h⟩ := bind_eq_ok.mp h
  obtain ⟨document, -, h⟩ := bind_eq_ok.mp h
  obtain ⟨nodes, hnodes, hmake⟩ := bind_eq_ok.mp h
  refine Graph.make_wellFormed (mapError_eq_ok.mp hmake) fun n hn => ?_
  obtain ⟨e, -, he⟩ := Text.exists_of_mem_right (forall₂_loadNodes hnodes) hn
  exact loadNode_wellFormed he

end Snapshot

/-! ## Changing -/

namespace Resource

variable {σ : Type} {g : Graph}

/-- Changing the node at a place leaves each node as it was, or reordered. -/
theorem transform_changed (hw : g.WellFormed) (s : σ) (i : Nat) :
    Graph.Changed (fun _ n m => n.layout = .untransformed ∧ n.Reordered m ∨ m = n) g
      (transform s g i).graph := by
  have hrefl : Graph.Changed (fun _ n m => n.layout = .untransformed ∧ n.Reordered m ∨ m = n) g g :=
    Graph.Changed.refl fun _ _ _ => .inr rfl
  cases hn : g.node? i with
  | none => simpa only [transform, hn] using hrefl
  | some n =>
    cases hm : transformNode n with
    | error fault => simpa only [transform, hn, hm] using hrefl
    | ok m =>
      simp only [transform, hn, hm]
      refine hrefl.setNode hn (fun k hk _ => ?_) fun _ _ _ _ h => h
      obtain rfl := Option.some.inj (hn.symm.trans hk)
      exact (transformNode_cases (hw.node (Graph.mem_nodes_iff.mpr ⟨i, hn⟩)) hm).symm

end Resource

/-- **How far generating code comes.** It ends at a node that the target has no kernels for, with
the graph as it was; at a fault of the pass; or with the text of the graph that the pass left. -/
theorem compile_cases (t : Target) (canceled : Bool) (g : Graph) :
    (∃ fault, g.nodes.mapM (Compile.checkNode t g.name) = .error fault ∧
      (compile t canceled g).graph = g ∧ (compile t canceled g).result = .error fault) ∨
    ∃ orders after, g.nodes.mapM (Compile.checkNode t g.name) = .ok orders ∧
      (compile t canceled g).graph = after.graph ∧
      ((∃ fault, Pass.run [Resource.pass] canceled () g = (after, .error fault) ∧
        (compile t canceled g).result = .error (.passes g.name fault)) ∨
      Pass.run [Resource.pass] canceled () g = (after, .ok ()) ∧
        (compile t canceled g).result = Compile.renderAll t after.graph orders) := by
  have hpasses : t.passes = [Resource.pass] := rfl
  cases horders : g.nodes.mapM (Compile.checkNode t g.name) with
  | error fault => exact .inl ⟨fault, rfl, by simp [compile, Compile.generate, horders]⟩
  | ok orders =>
    rcases hrun : Pass.run [Resource.pass] canceled () g with ⟨after, fault | _⟩
    · refine .inr ⟨orders, after, rfl, ?_, .inl ⟨fault, rfl, ?_⟩⟩
      all_goals simp [compile, Compile.generate, horders, hpasses, hrun]
    · refine .inr ⟨orders, after, rfl, ?_, .inr ⟨rfl, ?_⟩⟩
      all_goals
        cases hr : Compile.renderAll t after.graph orders <;>
          simp [compile, Compile.generate, horders, hpasses, hrun, hr]

/-- Generating code changes a graph as the pass does, or not at all. -/
theorem compile_graph (t : Target) (canceled : Bool) (g : Graph) :
    (compile t canceled g).graph = g ∨
      (compile t canceled g).graph = (Pass.run [Resource.pass] canceled () g).1.graph := by
  rcases compile_cases t canceled g with ⟨_, _, hg, _⟩ | ⟨_, after, _, hg, ⟨_, hrun, _⟩ | ⟨hrun, _⟩⟩
  · exact .inl hg
  · exact .inr (by rw [hg, hrun])
  · exact .inr (by rw [hg, hrun])

namespace Graph

/-! ## Building -/

/-- The graphs that can be built: made of nodes that were made of tensors that were made, or read
from a snapshot, and then changed by marking nodes and by the resource pass, run on one node, on the
whole graph, or to generate code. -/
inductive Built : Graph → Prop where
  | make {specs : List NodeSpec} {nodes : List Node} {name : String} {g : Graph} :
      (∀ spec ∈ specs, ∀ t ∈ spec.weights, Tensor.make t.name t.shape t.data = .ok t) →
      specs.mapM Node.make = .ok nodes → Graph.make name nodes = .ok g → Built g
  | decode {bytes : List UInt8} {g : Graph} : Snapshot.decode bytes = .ok g → Built g
  | mark {g : Graph} {i : Nat} {n : Node} :
      Built g → g.node? i = some n → Built (g.setNode i n.markTransformed)
  | transform {g : Graph} (i : Nat) : Built g → Built (Resource.transform () g i).graph
  | run {g : Graph} (canceled : Bool) :
      Built g → Built (Pass.run [Resource.pass] canceled () g).1.graph
  | compile {g : Graph} (t : Target) (canceled : Bool) :
      Built g → Built (compile t canceled g).graph

/-- Reordered nodes stay well formed and keep their names. -/
theorem wellFormed_of_reordered {P : Node → Prop} {g h : Graph} (hw : g.WellFormed)
    (hc : Changed (fun _ n m => P n ∧ n.Reordered m ∨ m = n) g h) : h.WellFormed := by
  refine hc.wellFormed hw fun _ n m hR hn => ?_
  rcases hR with ⟨-, hR⟩ | rfl
  · exact ⟨by rw [hR.rest], hR.wellFormed hn⟩
  · exact ⟨rfl, hn⟩

theorem WellFormed.mark {g : Graph} (hw : g.WellFormed) {i : Nat} {n : Node}
    (hn : g.node? i = some n) : (g.setNode i n.markTransformed).WellFormed := by
  have hrefl : Changed (fun _ n m => m = n) g g := Changed.refl fun _ _ _ => rfl
  have hc : Changed (fun _ n m => m = n ∨ m = n.markTransformed) g
      (g.setNode i n.markTransformed) := by
    refine hrefl.setNode hn (fun k hk _ => ?_) fun _ _ _ _ h => .inl h
    obtain rfl := Option.some.inj (hn.symm.trans hk)
    exact .inr rfl
  refine hc.wellFormed hw fun _ k m hR hk => ?_
  rcases hR with rfl | rfl
  · exact ⟨rfl, hk⟩
  · exact ⟨rfl, hk.markTransformed⟩

/-- **Every graph that can be built is well formed.** -/
theorem Built.wellFormed {g : Graph} (hb : g.Built) : g.WellFormed := by
  induction hb with
  | @make specs nodes name g htensors hnodes hmake =>
    refine make_wellFormed hmake fun n hn => ?_
    obtain ⟨spec, hspec, hn⟩ := Text.exists_of_mem_right (mapM_eq_ok_iff.mp hnodes) hn
    exact Node.make_wellFormed hn fun t ht =>
      (Tensor.make_eq_ok_iff.mp (htensors spec hspec t ht)).2
  | decode h => exact Snapshot.decode_wellFormed h
  | mark _ hn ih => exact ih.mark hn
  | transform i _ ih => exact wellFormed_of_reordered ih (Resource.transform_changed ih () i)
  | run canceled _ ih => exact wellFormed_of_reordered ih (Resource.run_changed ih canceled ())
  | @compile g t canceled _ ih =>
    rcases compile_graph t canceled g with h | h
    · exact h.symm ▸ ih
    · exact h.symm ▸ wellFormed_of_reordered ih (Resource.run_changed ih canceled ())

/-- A well-formed graph whose nodes are in their first order can be built. -/
theorem WellFormed.built {g : Graph} (hw : g.WellFormed)
    (hl : ∀ n ∈ g.nodes, n.layout = .untransformed) : g.Built := by
  refine @Built.make (g.nodes.map Node.spec) g.nodes g.name g ?_ ?_ (make_of_wellFormed hw)
  · intro spec hspec t ht
    obtain ⟨n, hn, rfl⟩ := List.mem_map.mp hspec
    exact Tensor.make_eq_ok_iff.mpr ⟨rfl, (hw.node hn).tensors t ht⟩
  · refine mapM_eq_ok_iff.mpr ?_
    rw [List.forall₂_map_left_iff, List.forall₂_same]
    intro n hn
    rw [Node.make_of_wellFormed (hw.node hn), ← hl n hn]

/-! ## A dense layer -/

/-- The weights of a dense layer with two inputs and one output, a signalling NaN and a negative
zero among them. -/
def denseWeights : List Tensor :=
  [⟨"bias", [1], #[0x3f800000]⟩, ⟨"weight", [2, 1], #[0x7fa00001, 0x80000000]⟩]

/-- A dense layer with two inputs and one output. -/
def denseLayer (strategy : String) : Node where
  name := "fc"
  index := 1
  strategy := strategy
  reuseFactor := 1
  input := ⟨"x", "input_t"⟩
  output := ⟨"y", "result_t"⟩
  attrs := some (.dense ⟨2, 1, 0⟩)
  variant := .dense
  weights := denseWeights
  layout := .untransformed

/-- A graph of one dense layer. -/
def denseGraph (strategy : String) : Graph := ⟨"net", [("fc", denseLayer strategy)]⟩

theorem denseLayer_wellFormed (strategy : String) : (denseLayer strategy).WellFormed where
  record := ⟨.dense ⟨2, 1, 0⟩, rfl, rfl, by decide +kernel⟩
  names := show denseWeights.map Tensor.name = Text.sortOn id Variant.dense.declaredWeights by
    decide +kernel
  tensors := by
    have hmake : ∀ t ∈ denseWeights, Tensor.make t.name t.shape t.data = .ok t := by decide +kernel
    exact fun t ht => (Tensor.make_eq_ok_iff.mp (hmake t ht)).2
  reuse := show (0 : Int64) < 1 by decide

theorem denseGraph_built (strategy : String) : (denseGraph strategy).Built := by
  have hw := denseLayer_wellFormed strategy
  refine WellFormed.built ⟨?_, ?_, ?_⟩ ?_
  · simp [denseGraph, denseLayer]
  · simp [denseGraph]
  · simpa [denseGraph] using hw
  · simp [denseGraph, nodes, denseLayer]

/-! ## The effect of a run -/

/-- **The effect of a run of the resource pass.** If the eligible nodes all fit, they are reordered
in at most two sweeps, and nothing else changes. Otherwise the first one that does not fit is named,
the eligible nodes before it are reordered, and nothing else changes. A run always converges. -/
theorem Built.run_effect {g : Graph} (hb : g.Built) {σ : Type} (s : σ) :
    ((∀ n ∈ g.nodes, n.Eligible → n.Fits) →
      ∃ after, ∃ sweeps ≤ 2, Pass.run [Resource.pass] false s g = (after, .ok ()) ∧
        (Pass.runFrom [Resource.pass] false 2 ⟨s, g, {}⟩).2 = .ok () ∧
        after.journal.events.getLast? = some (.fixedPoint g.name sweeps) ∧ after.state = s ∧
        Changed (fun _ n m => n.Eligible ∧ n.Reordered m ∨ ¬ n.Eligible ∧ m = n) g after.graph) ∧
    ((¬ ∀ n ∈ g.nodes, n.Eligible → n.Fits) →
      ∃ after i n, Resource.FirstMisfit g i n ∧
        (∃ r ∈ n.variant.rules, ∃ t ∈ n.weights, t.name = r.weight ∧ t.rank ≠ r.rank ∧
          Pass.run [Resource.pass] false s g =
            (after, .error (.transform "apply_resource_strategy" n.name (.tensor (r.misfit t))))) ∧
        after.state = s ∧
        Changed (fun j n m => (j < i ∧ n.Eligible) ∧ n.Reordered m ∨
          ¬ (j < i ∧ n.Eligible) ∧ m = n) g after.graph) ∧
    ∀ name, (Pass.run [Resource.pass] false s g).2 ≠ .error (.notConverged name) := by
  have hw := hb.wellFormed
  refine ⟨fun hf => ?_, fun hf => ?_, fun name => ?_⟩
  · obtain ⟨after, k, hk, hrun, hstate, hs, hlast⟩ := Resource.runFrom_fit hw hf s 62
    obtain ⟨_, _, _, htwo, _⟩ := Resource.runFrom_fit hw hf s 0
    refine ⟨after, 2 - k, by omega, hrun, congrArg Prod.snd htwo, ?_, hstate,
      hs.imp fun i n m hn hR => ?_⟩
    · rw [hlast, show Pass.maxSweeps - (62 + k) = 2 - k by simp only [Pass.maxSweeps]; omega]
    · simpa only [lt_size_of_node? hn, true_and] using hR
  · obtain ⟨i, n, hi⟩ := Resource.exists_firstMisfit hf
    obtain ⟨after, r, hr, t, ht, hname, hrank, hrun, hstate, hs⟩ := Resource.run_misfit hw hi s
    exact ⟨after, i, n, hi, ⟨r, hr, t, ht, hname, hrank, hrun⟩, hstate, hs⟩
  · by_cases hf : ∀ n ∈ g.nodes, n.Eligible → n.Fits
    · obtain ⟨after, k, -, hrun, -⟩ := Resource.runFrom_fit hw hf s 62
      rw [Pass.run, show Pass.maxSweeps = 62 + 2 from rfl, hrun]
      simp
    · obtain ⟨i, n, hi⟩ := Resource.exists_firstMisfit hf
      obtain ⟨after, r, -, t, -, -, -, hrun, -⟩ := Resource.run_misfit hw hi s
      rw [hrun]
      simp

/-- A dense layer that asks for the resource strategy is reordered. -/
theorem Built.run_effect_dense :
    (denseGraph "Resource").Built ∧ (denseLayer "Resource").Eligible ∧
      (denseLayer "Resource").Fits ∧
      ∃ after m, Pass.run [Resource.pass] false () (denseGraph "Resource") = (after, .ok ()) ∧
        after.graph.node? 0 = some m ∧ (denseLayer "Resource").Reordered m := by
  have hb := denseGraph_built "Resource"
  have he : (denseLayer "Resource").Eligible := ⟨rfl, by decide +kernel, rfl⟩
  have hf : (denseLayer "Resource").Fits :=
    show ∀ r ∈ Variant.dense.rules, ∀ t ∈ denseWeights, t.name = r.weight → t.rank = r.rank by
      decide +kernel
  obtain ⟨after, _, _, hrun, _, _, _, hc⟩ :=
    (hb.run_effect ()).1 (by simpa [denseGraph, nodes] using fun _ => hf)
  obtain ⟨m, hm, ⟨-, hR⟩ | ⟨hno, -⟩⟩ := hc.exists_after (i := 0) rfl
  · exact ⟨hb, he, hf, after, m, hrun, hm, hR⟩
  · exact absurd he hno

end Graph

end LayerCode
