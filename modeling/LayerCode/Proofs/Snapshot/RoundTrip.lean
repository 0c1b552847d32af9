import Mathlib.Data.List.Forall2
import LayerCode.Proofs.Snapshot.Document

/-!
# Snapshots read back

A graph that the format can hold is written, and its bytes are read as the graph, in whatever order
the weights of its nodes were written. What is lost is what the precision of the values does not
keep, and an undeclared channel order.

* `Graph.Storable`, `Graph.Addressable`: graphs that the format can hold;
* `Node.kept`: what a snapshot keeps of a node, `Node.kept_single` when it is all of it;
* `loadNode_entry`: the entry of a node is loaded as what is kept of it;
* `encodeWith_name`, **`decode_graphBytes`**: a graph is written, and its bytes are read as what is
  kept of it.
-/

namespace LayerCode

open Text Outcome Cbor Snapshot

/-! ## What the format can hold -/

/-- The graph has no more nodes, and its tensors no more axes, than an array may have elements. -/
structure Graph.Storable (g : Graph) : Prop where
  size : g.size ≤ maxElements
  nodes : ∀ n ∈ g.nodes, n.Storable

/-- The texts and payloads of a graph are not beyond the largest length, as none in memory are. -/
structure Graph.Addressable (g : Graph) : Prop where
  name : Cbor.Addressable g.name
  nodes : ∀ n ∈ g.nodes, n.Addressable

/-! ## What a snapshot keeps -/

/-- What is left of a weight that was stored in a precision. -/
def Tensor.kept (p : Precision) (t : Tensor) : Tensor := { t with data := t.data.map p.kept }

theorem Tensor.kept_single (t : Tensor) : t.kept .single = t := by
  rw [kept, Precision.kept_single, Array.map_id]

theorem Tensor.Valid.kept {t : Tensor} (h : t.Valid) (p : Precision) : (t.kept p).Valid where
  axes := h.axes
  positive := h.positive
  count := by simpa [Tensor.kept] using h.count
  countable := by simpa [Tensor.kept] using h.countable

/-- The channel order of a node, if it has one, is a declared one. -/
def Node.DeclaredFormat (n : Node) : Prop :=
  ∀ a f, n.attrs = some a → a.dataFormat? = some f → f.Declared

/-- What is left of a node that was stored in a precision: its values as the precision keeps them,
and its channel order as the name of it says. -/
def Node.kept (p : Precision) (n : Node) : Node :=
  { n with attrs := n.attrs.map Attributes.named, weights := n.weights.map (Tensor.kept p) }

theorem Node.DeclaredFormat.named_attrs {n : Node} (h : n.DeclaredFormat) :
    n.attrs.map Attributes.named = n.attrs := by
  cases ha : n.attrs with
  | none => rfl
  | some a => rw [Option.map_some, Attributes.named_of_declared fun f hf => h a f ha hf]

/-- Single precision keeps every bit. -/
theorem Node.kept_single {n : Node} (h : n.DeclaredFormat) : n.kept .single = n := by
  have hweights : n.weights.map (Tensor.kept .single) = n.weights := by
    rw [funext Tensor.kept_single]
    exact List.map_id _
  rw [kept, h.named_attrs, hweights]

theorem Node.WellFormed.kept {n : Node} (h : n.WellFormed) (p : Precision) :
    (n.kept p).WellFormed := by
  obtain ⟨a, ha, hkind, hcheck⟩ := h.record
  refine ⟨⟨a.named, ?_, ?_, ?_⟩, ?_, ?_, h.reuse⟩
  · rw [Node.kept, ha, Option.map_some]
  · rw [Attributes.kind_named, hkind]
    rfl
  · rw [Attributes.check_named, hcheck]
  · show (n.weights.map (Tensor.kept p)).map Tensor.name = sortOn id n.variant.declaredWeights
    rw [List.map_map, ← h.names]
    rfl
  · intro t ht
    obtain ⟨u, hu, rfl⟩ := List.mem_map.mp ht
    exact (h.tensors u hu).kept p

theorem Graph.nodes_mapNodes (g : Graph) (f : Node → Node) :
    (g.mapNodes f).nodes = g.nodes.map f := by
  simp only [nodes, mapNodes, List.map_map, Function.comp_def]

theorem Graph.WellFormed.kept {g : Graph} (h : g.WellFormed) (p : Precision) :
    (g.mapNodes (Node.kept p)).WellFormed := by
  refine ⟨?_, ?_, ?_⟩
  · intro e he
    obtain ⟨d, hd, rfl⟩ := List.mem_map.mp he
    exact h.listed d hd
  · rw [mapNodes, List.map_map]
    exact h.distinct
  · intro e he
    obtain ⟨d, hd, rfl⟩ := List.mem_map.mp he
    exact (h.nodes d hd).kept p

namespace Snapshot

/-! ## Loading -/

theorem loadTensor_entry (p : Precision) {t : Tensor} (h : t.Valid) :
    loadTensor (t.name, tensorEntry p t) = .ok (t.kept p) := by
  have hmake : Tensor.make t.name t.shape (t.data.map p.kept) = .ok (t.kept p) :=
    Tensor.make_eq_ok_iff.mpr ⟨rfl, h.kept p⟩
  simp only [loadTensor, tensorEntry, Payload.read_write, mapError_ok, ok_bind, hmake]

theorem parse_name (v : Variant) : Variant.parse v.name = .ok v := by
  cases v <;> rfl

theorem mark_untransformed (n : Node) :
    (if n.layout == .transformed then { n with layout := .untransformed }.markTransformed
      else { n with layout := .untransformed }) = n := by
  obtain ⟨_, _, _, _, _, _, _, _, _, layout⟩ := n
  cases layout <;> rfl

/-- **The entry of a node is loaded as what is kept of the node.** -/
theorem loadNode_entry (p : Precision) {n : Node} (h : n.WellFormed) :
    loadNode (nodeEntry p n) = .ok (n.kept p) := by
  obtain ⟨a, ha, hkind, hcheck⟩ := h.record
  have hread : readAttributes n.variant.record (some (attributesItem n.attrs)) = .ok a.named := by
    rw [← hkind, ha]
    exact readAttributes_fields hcheck
  have hweights : (nodeEntry p n).weights.mapM loadTensor = .ok (n.kept p).weights := by
    refine mapM_eq_ok_iff.mpr ?_
    rw [nodeEntry, Node.kept, List.forall₂_map_left_iff, List.forall₂_map_right_iff,
      List.forall₂_same]
    exact fun t ht => loadTensor_entry p (h.tensors t ht)
  have hspec : (n.kept p).spec =
      { name := n.name, index := n.index, variant := n.variant.code, strategy := n.strategy
        reuseFactor := n.reuseFactor, input := n.input, output := n.output
        attrs := some a.named, weights := (n.kept p).weights } := by
    simp only [Node.spec, Node.kept, ha, Option.map_some]
  have hmake := Node.make_of_wellFormed (h.kept p)
  rw [hspec] at hmake
  simp only [loadNode, hweights, ok_bind]
  simp only [nodeEntry, parse_name, mapError_ok, ok_bind, hread, hmake, pure_eq_ok, Except.ok.injEq]
  exact mark_untransformed (n.kept p)

theorem loadNodes_entries (p : Precision) (graph : String) (i : Nat) {ns : List Node}
    (h : ∀ n ∈ ns, n.WellFormed) :
    loadNodes graph i (ns.map (nodeEntry p)) = .ok (ns.map (Node.kept p)) := by
  induction ns generalizing i with
  | nil => rfl
  | cons n ns ih =>
    have hn := loadNode_entry p (h n List.mem_cons_self)
    have hns := ih (i + 1) fun m hm => h m (List.mem_cons_of_mem n hm)
    simp only [List.map_cons, loadNodes, hn, hns, Except.map_ok]

/-! ## Decoding -/

theorem scan_of_scans {bytes : List UInt8} {item : Item} (h : Scans maxLevels bytes item) :
    scan bytes = .ok (item, []) := by
  have hitem := h []
  rw [List.append_nil] at hitem
  cases bytes with
  | nil => simp [level_item, scanItem, scanHead] at hitem
  | cons b bytes => exact hitem

section Decoding

variable {g : Graph} {arrange : Node → List Tensor} (p : Precision)

/-- The bytes of a graph, with the weights of each node in an order of choice. -/
def graphBytes (p : Precision) (arrange : Node → List Tensor) (g : Graph) : List UInt8 :=
  Write.map [("name", Write.text g.name), ("nodes", Write.array (g.nodes.map fun n =>
    nodeBytes n ((arrange n).map fun t => (t.name, tensorBytes p t))))]

/-- A graph is written in any precision that has a name. -/
theorem encodeWith_name : encodeWith arrange p.name g = .ok (graphBytes p arrange g) := by
  have hnodes : g.nodes.mapM (encodeNode arrange p.name) = .ok (g.nodes.map fun n =>
      nodeBytes n ((arrange n).map fun t => (t.name, tensorBytes p t))) := by
    refine mapM_eq_ok_iff.mpr ?_
    rw [List.forall₂_map_right_iff, List.forall₂_same]
    intro n _
    simp only [encodeNode, p.ofName?_name]
  simp only [encodeWith, hnodes, ok_bind, pure_eq_ok, graphBytes]

variable (hw : g.WellFormed) (hs : g.Storable) (ha : g.Addressable)
  (hp : ∀ n ∈ g.nodes, (arrange n).Perm n.weights)

include hw hp in
theorem readDocument_item :
    readDocument (.ofEntries [("name", .text [utf8 g.name]),
      ("nodes", .array (g.nodes.map fun n => nodeItem p n (arrange n)))]) =
      .ok ⟨g.name, g.nodes.map (nodeEntry p)⟩ := by
  have hnodes : readArray id readNode (.array (g.nodes.map fun n => nodeItem p n (arrange n))) =
      .ok (g.nodes.map (nodeEntry p)) := by
    refine readArray_array id ?_
    rw [List.forall₂_map_left_iff, List.forall₂_map_right_iff, List.forall₂_same]
    exact fun n hn => readNode_item p (hw.node hn) (hp n hn)
  exact readRecord_ofEntries _ (by decide +kernel) <|
    .put (readText_text _) <| .put hnodes .done

include hw hs ha hp in
theorem scans_graph :
    Scans maxLevels (graphBytes p arrange g) (.ofEntries [("name", .text [utf8 g.name]),
      ("nodes", .array (g.nodes.map fun n => nodeItem p n (arrange n)))]) := by
  have hnodes : Scans 31 (Write.array (g.nodes.map fun n =>
      nodeBytes n ((arrange n).map fun t => (t.name, tensorBytes p t))))
      (.array (g.nodes.map fun n => nodeItem p n (arrange n))) := by
    refine scans_array ?_ ?_
    · rw [List.length_map, Graph.nodes, List.length_map]
      exact hs.size
    · rw [List.forall₂_map_left_iff, List.forall₂_map_right_iff, List.forall₂_same]
      exact fun n hn => scans_node p 26 (hw.node hn) (hs.nodes n hn) (ha.nodes n hn) (hp n hn)
  exact scans_map (show 2 ≤ maxElements by decide) <|
    .cons (scansEntry (by decide +kernel) (scans_text 31 ha.name)) <|
    .cons (scansEntry (by decide +kernel) hnodes) .nil

include hw hs ha hp in
/-- **The bytes of a graph are read as what is kept of the graph.** -/
theorem decode_graphBytes :
    decode (graphBytes p arrange g) = .ok (g.mapNodes (Node.kept p)) := by
  have hmake := Graph.make_of_wellFormed (hw.kept p)
  rw [Graph.nodes_mapNodes] at hmake
  have hload : load ⟨g.name, g.nodes.map (nodeEntry p)⟩ = .ok (g.mapNodes (Node.kept p)) := by
    simp only [load, loadNodes_entries p g.name 0 fun n hn => hw.node hn, ok_bind]
    rw [mapError_eq_ok]
    exact hmake
  simp only [decode, scan_of_scans (scans_graph p hw hs ha hp), mapError_ok, ok_bind,
    readDocument_item p hw hp, hload]

end Decoding

end Snapshot

end LayerCode
