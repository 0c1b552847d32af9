import LayerCode.Proofs.Number.Half
import LayerCode.Proofs.Snapshot.NormalForm

/-!
# Snapshots in half precision

A snapshot in half precision rounds the values of the weights, and keeps everything else of a graph
with declared channel orders. The graph that is read from it loses nothing more: it is written as
the same bytes, and read from them as the same graph.

* `Graph.rounded`: the graph with the values of its weights rounded, and nothing else changed;
* `tensorBytes_rounded`, **`graphBytes_rounded`**: rounded values are stored as the same bytes;
* **`Graph.Built.half_precision_settles`**.
-/

namespace LayerCode

open Text Outcome Cbor Snapshot

/-! ## Rounded values -/

/-- The weight with its values rounded to half precision. -/
def Tensor.rounded (t : Tensor) : Tensor := { t with data := t.data.map Half.rounded }

/-- The node with the values of its weights rounded to half precision. -/
def Node.rounded (n : Node) : Node := { n with weights := n.weights.map Tensor.rounded }

/-- The graph with the values of all weights rounded to half precision. -/
def Graph.rounded (g : Graph) : Graph := g.mapNodes Node.rounded

theorem Tensor.rounded_rounded (t : Tensor) : t.rounded.rounded = t.rounded := by
  have hvalues : Half.rounded ∘ Half.rounded = Half.rounded := funext Half.rounded_rounded
  simp only [rounded, Array.map_map, hvalues]

theorem Node.rounded_rounded (n : Node) : n.rounded.rounded = n.rounded := by
  have hweights : Tensor.rounded ∘ Tensor.rounded = Tensor.rounded := funext Tensor.rounded_rounded
  simp only [rounded, List.map_map, hweights]

theorem Graph.nodes_rounded (g : Graph) : g.rounded.nodes = g.nodes.map Node.rounded :=
  g.nodes_mapNodes Node.rounded

theorem Graph.rounded_rounded (g : Graph) : g.rounded.rounded = g.rounded := by
  simp only [rounded, mapNodes, List.map_map, Function.comp_def, Node.rounded_rounded]

/-! ## What half precision keeps -/

/-- Half precision keeps a node with its values rounded. -/
theorem Node.kept_half {n : Node} (h : n.DeclaredFormat) : n.kept .half = n.rounded := by
  rw [kept, h.named_attrs]
  rfl

theorem Graph.kept_half {g : Graph} (h : ∀ n ∈ g.nodes, n.DeclaredFormat) :
    g.mapNodes (Node.kept .half) = g.rounded := by
  have hentries : ∀ e ∈ g.entries, (e.1, e.2.kept .half) = (e.1, e.2.rounded) := by
    intro e he
    rw [Node.kept_half (h e.2 (List.mem_map_of_mem he))]
  rw [rounded, mapNodes, mapNodes, List.map_congr_left hentries]

theorem Node.Storable.rounded {n : Node} (h : n.Storable) : n.rounded.Storable := by
  intro t ht
  obtain ⟨u, hu, rfl⟩ := List.mem_map.mp ht
  exact h u hu

theorem Node.Addressable.rounded {n : Node} (h : n.Addressable) : n.rounded.Addressable := by
  refine { h with payloads := fun t ht => ?_ }
  obtain ⟨u, hu, rfl⟩ := List.mem_map.mp ht
  simpa [Tensor.rounded] using h.payloads u hu

/-- Rounding keeps a graph within what the format can hold. -/
theorem Graph.Persistent.rounded {g : Graph} (hp : g.Persistent)
    (hd : ∀ n ∈ g.nodes, n.DeclaredFormat) : g.rounded.Persistent := by
  have hmem : ∀ m ∈ g.rounded.nodes, ∃ n ∈ g.nodes, n.rounded = m := by
    intro m hm
    rw [nodes_rounded] at hm
    exact List.mem_map.mp hm
  refine ⟨?_, ⟨?_, fun m hm => ?_⟩, ⟨hp.addressable.name, fun m hm => ?_⟩⟩
  · rw [← kept_half hd]
    exact hp.wellFormed.kept .half
  · rw [size, Graph.rounded, mapNodes, List.length_map]
    exact hp.storable.size
  · obtain ⟨n, hn, rfl⟩ := hmem m hm
    exact (hp.storable.nodes n hn).rounded
  · obtain ⟨n, hn, rfl⟩ := hmem m hm
    exact (hp.addressable.nodes n hn).rounded

theorem Graph.declaredFormat_rounded {g : Graph} (hd : ∀ n ∈ g.nodes, n.DeclaredFormat) :
    ∀ n ∈ g.rounded.nodes, n.DeclaredFormat := by
  intro m hm
  rw [nodes_rounded] at hm
  obtain ⟨n, hn, rfl⟩ := List.mem_map.mp hm
  exact hd n hn

theorem Graph.Persistent.decode_half {g : Graph} (hp : g.Persistent)
    (hd : ∀ n ∈ g.nodes, n.DeclaredFormat) (a : Arrangement) :
    Snapshot.decode (graphBytes .half a.order g) = .ok g.rounded := by
  rw [Snapshot.decode_graphBytes .half hp.wellFormed hp.storable hp.addressable
    fun n _ => a.perm n, kept_half hd]

namespace Snapshot

/-! ## Bytes -/

theorem tensorBytes_rounded (t : Tensor) : tensorBytes .half t.rounded = tensorBytes .half t := by
  have hwrite : Payload.write .half t.rounded.data = Payload.write .half t.data := by
    simp only [Payload.write, Tensor.rounded, Array.toList_map, List.flatMap_map,
      Half.ofSingle_rounded]
  rw [tensorBytes, hwrite]
  rfl

theorem byKey_rounded (ts : List Tensor) :
    byKey (ts.map Tensor.rounded) = (byKey ts).map Tensor.rounded := by
  have hplace : ∀ t us, placeByKey (Tensor.rounded t) (us.map Tensor.rounded) =
      (placeByKey t us).map Tensor.rounded := by
    intro t us
    induction us with
    | nil => rfl
    | cons u us ih =>
      rw [List.map_cons, placeByKey, placeByKey, ih, apply_ite (List.map Tensor.rounded)]
      rfl
  induction ts with
  | nil => rfl
  | cons t ts ih =>
    show placeByKey t.rounded (byKey (ts.map Tensor.rounded)) = _
    rw [ih, hplace]
    rfl

/-- **A graph and the graph with its values rounded are stored as the same bytes.** -/
theorem graphBytes_rounded (g : Graph) :
    graphBytes .half Arrangement.byKey.order g.rounded =
      graphBytes .half Arrangement.byKey.order g := by
  have hnode : ∀ n : Node,
      nodeBytes n.rounded
          ((Arrangement.byKey.order n.rounded).map fun t => (t.name, tensorBytes .half t)) =
        nodeBytes n ((Arrangement.byKey.order n).map fun t => (t.name, tensorBytes .half t)) := by
    intro n
    show nodeBytes n ((byKey (n.weights.map Tensor.rounded)).map _) = _
    rw [byKey_rounded, List.map_map]
    congr 1
    refine List.map_congr_left fun t _ => ?_
    show (t.name, tensorBytes .half t.rounded) = _
    rw [tensorBytes_rounded]
  simp only [graphBytes, Graph.nodes_rounded, List.map_map, Function.comp_def, hnode]
  rfl

end Snapshot

/-- **A snapshot in half precision rounds once.** A graph with declared channel orders that the
format can hold is written, with the weights in any order, and read as the graph with its values
rounded. That graph is written as the same bytes, when weights stand in the order of their names,
and in any order it is read as itself again. Rounding changes exactly the values that are not those
of a half; the value of a signalling NaN is that of a quiet one. -/
theorem Graph.Built.half_precision_settles {g : Graph} (hb : g.Built)
    (hd : ∀ n ∈ g.nodes, n.DeclaredFormat) (hs : g.Storable) (ha : g.Addressable) :
    (∀ a : Arrangement, ∃ bytes, encodeWith a.order "fp16" g = .ok bytes ∧
      Snapshot.decode bytes = .ok g.rounded) ∧
    (∃ bytes, encode "fp16" g = .ok bytes ∧ encode "fp16" g.rounded = .ok bytes) ∧
    (∀ a : Arrangement, ∃ bytes, encodeWith a.order "fp16" g.rounded = .ok bytes ∧
      Snapshot.decode bytes = .ok g.rounded) ∧
    ∀ v, Half.rounded v = v ↔ ∃ x, Half.toSingle x = v := by
  have hp : g.Persistent := ⟨hb.wellFormed, hs, ha⟩
  refine ⟨fun a => ?_, ?_, fun a => ?_, Half.rounded_eq_self_iff⟩
  · exact ⟨_, encodeWith_name .half, hp.decode_half hd a⟩
  · refine ⟨graphBytes .half Arrangement.byKey.order g, encodeWith_name .half, ?_⟩
    rw [← graphBytes_rounded]
    exact encodeWith_name .half
  · refine ⟨_, encodeWith_name .half, ?_⟩
    rw [(hp.rounded hd).decode_half (declaredFormat_rounded hd) a, rounded_rounded]

/-- A dense layer with a signalling NaN, whose value changes, is stored twice. -/
theorem Graph.Built.half_precision_settles_dense :
    (denseGraph "Resource").Built ∧ (denseLayer "Resource").DeclaredFormat ∧
      (denseGraph "Resource").Storable ∧ (denseGraph "Resource").Addressable ∧
      (denseGraph "Resource").rounded ≠ denseGraph "Resource" ∧
      Half.rounded 0x7fa00001 = 0x7fe00000 ∧ Half.rounded 0x80000000 = 0x80000000 ∧
      ∃ bytes again,
        encodeWith Arrangement.reversed.order "fp16" (denseGraph "Resource") = .ok bytes ∧
        Snapshot.decode bytes = .ok (denseGraph "Resource").rounded ∧
        encode "fp16" (denseGraph "Resource") = .ok again ∧
        encode "fp16" (denseGraph "Resource").rounded = .ok again := by
  have hb := denseGraph_built "Resource"
  have hd := denseLayer_declaredFormat "Resource"
  obtain ⟨hread, ⟨again, hfirst, hsecond⟩, -, -⟩ :=
    hb.half_precision_settles (by simpa [denseGraph, nodes] using hd) denseGraph_storable
      denseGraph_addressable
  obtain ⟨bytes, hencode, hdecode⟩ := hread .reversed
  exact ⟨hb, hd, denseGraph_storable, denseGraph_addressable, by decide +kernel, by decide +kernel,
    by decide +kernel, bytes, again, hencode, hdecode, hfirst, hsecond⟩

end LayerCode
