import LayerCode.Proofs.Compile.Outcomes
import LayerCode.Proofs.Pass.Alike
import LayerCode.Proofs.Snapshot.Persistence

/-!
# Code of a graph that was stored

A snapshot in half precision loses digits of the weights, and nothing else of a graph with declared
channel orders. Neither the check of the nodes, nor the passes, nor the text of the nodes depends on
those digits, so the code of the graph that is read back is the code of the graph that was stored.

* `Node.alike_kept`: what a snapshot keeps of a node is like the node;
* **`compile_alike`**: graphs that are alike have the same code, or fail in the same way.
-/

namespace LayerCode

open Text Outcome Snapshot

theorem Node.Alike.sameText {n m : Node} (h : n.Alike m) : n.SameText m := by
  rw [Node.SameText, h.rest]

theorem Tensor.alike_kept (p : Precision) (t : Tensor) : t.Alike (t.kept p) :=
  ⟨rfl, rfl, Array.size_map⟩

theorem Node.alike_kept (p : Precision) {n : Node} (h : n.DeclaredFormat) : n.Alike (n.kept p) := by
  refine ⟨?_, ?_⟩
  · rw [Node.kept, h.named_attrs]
  · show List.Forall₂ Tensor.Alike n.weights (n.weights.map (Tensor.kept p))
    rw [List.forall₂_map_right_iff, List.forall₂_same]
    exact fun t _ => t.alike_kept p

namespace Compile

theorem mapM_checkNode_alike {g h : Graph} (ha : g.Alike h) (t : Target) (graph : String) :
    h.nodes.mapM (checkNode t graph) = g.nodes.mapM (checkNode t graph) := by
  refine mapM_congr ha.forall₂ fun n m hnm => ?_
  obtain ⟨-, hnm⟩ := hnm
  rw [hnm.rest]
  rfl

/-- **Graphs that are alike have the same code**, or none for the same reason, and are alike
afterwards. -/
theorem compile_alike {g h : Graph} (ha : g.Alike h) (t : Target) (canceled : Bool) :
    (compile t canceled h).result = (compile t canceled g).result ∧
      (compile t canceled g).graph.Alike (compile t canceled h).graph := by
  have hpasses : ∀ p ∈ t.passes, p.Respects := by
    intro p hp
    obtain rfl := List.mem_singleton.mp hp
    exact Resource.pass_respects
  obtain ⟨after, after', e, hg, hh, hafter⟩ := (Pass.run_alike hpasses canceled () ha).cases
  have htext : Graph.Changed (fun _ => Node.SameText) after.graph after'.graph :=
    hafter.graph.imp fun _ _ _ _ hnm => hnm.sameText
  show (generate t canceled h).result = (generate t canceled g).result ∧
    (generate t canceled g).graph.Alike (generate t canceled h).graph
  simp only [generate, mapM_checkNode_alike ha, hg, hh, ha.name]
  cases g.nodes.mapM (checkNode t g.name) with
  | error fault => exact ⟨rfl, ha⟩
  | ok orders =>
    cases e with
    | error fault => exact ⟨rfl, hafter.graph⟩
    | ok _ =>
      simp only [renderAll_congr htext]
      cases renderAll t after.graph orders with
      | error fault => exact ⟨rfl, hafter.graph⟩
      | ok r => exact ⟨rfl, hafter.graph⟩

end Compile

/-- The same weights by name, with the same shapes. -/
def Node.SameShapes (n m : Node) : Prop :=
  List.Forall₂ (fun t u : Tensor => u.name = t.name ∧ u.shape = t.shape) n.weights m.weights

/-- **A graph and its snapshot have the same code.** A graph with declared channel orders that the
format can hold is written and read back in either precision. Generating code for the two graphs
gives the same text, or fails in the same way, and leaves corresponding nodes with the same layout
state and weights of the same shapes. -/
theorem Graph.Built.compile_reloaded {g : Graph} (hb : g.Built)
    (hd : ∀ n ∈ g.nodes, n.DeclaredFormat) (hs : g.Storable) (ha : g.Addressable) (a : Arrangement)
    (p : Precision) (t : Target) (canceled : Bool) :
    ∃ bytes h, encodeWith a.order p.name g = .ok bytes ∧ Snapshot.decode bytes = .ok h ∧
      (LayerCode.compile t canceled h).result = (LayerCode.compile t canceled g).result ∧
      Changed (fun _ n m => m.layout = n.layout ∧ n.SameShapes m)
        (LayerCode.compile t canceled g).graph (LayerCode.compile t canceled h).graph := by
  have hkept : g.Alike (g.mapNodes (Node.kept p)) :=
    (Changed.mapNodes (Node.kept p)).imp fun i n m hn hm =>
      hm ▸ Node.alike_kept p (hd n (mem_nodes_iff.mpr ⟨i, hn⟩))
  obtain ⟨hresult, hgraph⟩ := Compile.compile_alike hkept t canceled
  refine ⟨graphBytes p a.order g, g.mapNodes (Node.kept p), encodeWith_name p,
    decode_graphBytes p hb.wellFormed hs ha fun n _ => a.perm n, hresult, ?_⟩
  refine hgraph.imp fun _ n m _ hnm => ⟨hnm.layout, ?_⟩
  exact hnm.weights.imp fun t u htu => ⟨htu.name, htu.shape⟩

/-- A dense layer whose weights half precision does not keep has the same code after that. -/
theorem Graph.Built.compile_reloaded_dense :
    (denseGraph "Resource").Built ∧ (denseLayer "Resource").DeclaredFormat ∧
      (denseGraph "Resource").Storable ∧ (denseGraph "Resource").Addressable ∧
      (denseLayer "Resource").kept .half ≠ denseLayer "Resource" ∧
      ∃ bytes h r,
        encodeWith Arrangement.reversed.order "fp16" (denseGraph "Resource") = .ok bytes ∧
        Snapshot.decode bytes = .ok h ∧ (LayerCode.compile .vivado false h).result = .ok r ∧
        (LayerCode.compile .vivado false (denseGraph "Resource")).result = .ok r := by
  have hb := denseGraph_built "Resource"
  have hd := denseLayer_declaredFormat "Resource"
  have hok : (LayerCode.compile .vivado false (denseGraph "Resource")).result.isOk = true := by
    decide +kernel
  obtain ⟨r, hr⟩ := exists_of_isOk hok
  obtain ⟨bytes, h, hencode, hdecode, hresult, -⟩ :=
    hb.compile_reloaded (by simpa [denseGraph, nodes] using hd) denseGraph_storable
      denseGraph_addressable .reversed .half .vivado false
  exact ⟨hb, hd, denseGraph_storable, denseGraph_addressable, by decide +kernel, bytes, h, r,
    hencode, hdecode, hresult.trans hr, hr⟩

end LayerCode
