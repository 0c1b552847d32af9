import LayerCode.Proofs.Graph.Built
import LayerCode.Proofs.Snapshot.RoundTrip

/-!
# Weights across snapshots

A snapshot in single precision holds a graph with nothing lost, the layout states of its nodes
included. So a weight is reordered at most once, however the resource pass, the generation of code
and snapshots follow each other.

* `Arrangement`: an order in which the weights of nodes are written;
* `Operation`: what can be done with a graph, one thing after another;
* `Node.Evolved`: what operations can do to a node;
* **`Operation.changed`**, **`Operation.afterAll_changed`**: an operation, and any number of them,
  do no more.
-/

namespace LayerCode

open Text Outcome Cbor Snapshot

/-! ## Round trips -/

/-- An order in which the weights of nodes are written. -/
structure Arrangement where
  order : Node → List Tensor
  perm : ∀ n, (order n).Perm n.weights

theorem Graph.mapNodes_eq_self {f : Node → Node} {g : Graph} (h : ∀ n ∈ g.nodes, f n = n) :
    g.mapNodes f = g := by
  have hentries : g.entries.map (fun e => (e.1, f e.2)) = g.entries := by
    conv_rhs => rw [← List.map_id g.entries]
    refine List.map_congr_left fun e he => ?_
    rw [h e.2 (List.mem_map_of_mem he)]
    rfl
  rw [mapNodes, hentries]

/-- **A graph with declared channel orders is read back from its snapshot in single precision**, in
whatever order the weights of its nodes were written. -/
theorem Graph.Built.decode_encodeWith {g : Graph} (hb : g.Built)
    (hd : ∀ n ∈ g.nodes, n.DeclaredFormat) (hs : g.Storable) (ha : g.Addressable)
    (a : Arrangement) :
    ∃ bytes, encodeWith a.order "fp32" g = .ok bytes ∧ Snapshot.decode bytes = .ok g := by
  refine ⟨graphBytes .single a.order g, encodeWith_name .single, ?_⟩
  rw [decode_graphBytes .single hb.wellFormed hs ha fun n _ => a.perm n,
    Graph.mapNodes_eq_self fun n hn => Node.kept_single (hd n hn)]

/-- The last weights first. -/
def Arrangement.reversed : Arrangement :=
  ⟨fun n => n.weights.reverse, fun n => n.weights.reverse_perm⟩

theorem Graph.denseGraph_storable : (denseGraph "Resource").Storable := by
  have hn : (denseLayer "Resource").Storable :=
    show ∀ t ∈ denseWeights, t.rank ≤ maxElements by decide
  exact ⟨by decide, by simpa [denseGraph, nodes] using hn⟩

theorem Graph.denseGraph_addressable : (denseGraph "Resource").Addressable := by
  have hn : (denseLayer "Resource").Addressable :=
    ⟨by decide +kernel, by decide +kernel, ⟨by decide +kernel, by decide +kernel⟩,
      ⟨by decide +kernel, by decide +kernel⟩,
      show ∀ t ∈ denseWeights, 4 * t.data.size ≤ maxLength by decide⟩
  exact ⟨by decide +kernel, by simpa [denseGraph, nodes] using hn⟩

theorem Graph.denseLayer_declaredFormat (strategy : String) :
    (denseLayer strategy).DeclaredFormat := by
  intro a f ha hf
  obtain rfl := Option.some.inj ha
  exact absurd hf (by simp [Attributes.dataFormat?])

/-- A dense layer, with a signalling NaN and a negative zero, is read back. -/
theorem Graph.Built.decode_encodeWith_dense :
    (denseGraph "Resource").Built ∧ (denseLayer "Resource").DeclaredFormat ∧
      (denseGraph "Resource").Storable ∧ (denseGraph "Resource").Addressable ∧
      ∃ bytes, encodeWith Arrangement.reversed.order "fp32" (denseGraph "Resource") = .ok bytes ∧
        Snapshot.decode bytes = .ok (denseGraph "Resource") := by
  have hb := denseGraph_built "Resource"
  have hd := denseLayer_declaredFormat "Resource"
  exact ⟨hb, hd, denseGraph_storable, denseGraph_addressable,
    hb.decode_encodeWith (by simpa [denseGraph, nodes] using hd) denseGraph_storable
      denseGraph_addressable .reversed⟩

/-! ## Operations -/

/-- What can be done with a graph. -/
inductive Operation where
  /-- Asks whether the resource pass applies to the node at a place. -/
  | offer (i : Nat)
  /-- Lets the resource pass change the node at a place. -/
  | transform (i : Nat)
  /-- Runs the resource pass. -/
  | run (canceled : Bool)
  /-- Generates code. -/
  | compile (t : Target) (canceled : Bool)
  /-- Writes a snapshot in single precision and reads it. -/
  | reload (a : Arrangement)

/-- The graph that is read from a snapshot of a graph. -/
def Snapshot.reload? (a : Arrangement) (g : Graph) : Option Graph :=
  match encodeWith a.order "fp32" g with
  | .ok bytes => (decode bytes).toOption
  | .error _ => none

/-- The graph after an operation, whether or not it succeeded. -/
def Operation.after (g : Graph) : Operation → Graph
  | .offer _ => g
  | .transform i => (Resource.transform () g i).graph
  | .run canceled => (Pass.run [Resource.pass] canceled () g).1.graph
  | .compile t canceled => (LayerCode.compile t canceled g).graph
  | .reload a => (reload? a g).getD g

/-- The graph after operations. -/
def Operation.afterAll (ops : List Operation) (g : Graph) : Graph := ops.foldl Operation.after g

/-! ## What operations do to nodes -/

namespace Node

/-- The second node is what operations can make of the first: nothing has changed but the attribute
record, and the weights have been moved at most once, from their first order. -/
structure Evolved (n m : Node) : Prop where
  rest : m = { n with attrs := m.attrs, weights := m.weights, layout := m.layout }
  moved : m.layout = n.layout ∧ m.weights = n.weights ∨
    n.layout = .untransformed ∧ m.layout = .transformed ∧
      List.Forall₂ n.variant.Reorders n.weights m.weights
  wellFormed : n.WellFormed → m.WellFormed

namespace Evolved

variable {n m k : Node}

theorem refl (n : Node) : n.Evolved n := ⟨rfl, .inl ⟨rfl, rfl⟩, id⟩

theorem variant (h : n.Evolved m) : m.variant = n.variant := by rw [h.rest]

theorem trans (h : n.Evolved m) (h' : m.Evolved k) : n.Evolved k := by
  refine ⟨?_, ?_, h'.wellFormed ∘ h.wellFormed⟩
  · rw [h'.rest, h.rest]
  · have hv := h.variant
    rcases h.moved with ⟨hl, hw⟩ | ⟨hn, hm, hR⟩
    · rw [← hl, ← hw, ← hv]
      exact h'.moved
    · -- The weights were moved on the way to the second node, so they are not moved again.
      rcases h'.moved with ⟨hl, hw⟩ | ⟨hm', -⟩
      · exact .inr ⟨hn, hl.trans hm, hw ▸ hR⟩
      · rw [hm] at hm'
        exact absurd hm' (by decide)

theorem of_reordered (hl : n.layout = .untransformed) (h : n.Reordered m) : n.Evolved m := by
  refine ⟨?_, .inr ⟨hl, ?_, h.weights⟩, h.wellFormed⟩
  · rw [h.rest]
  · rw [h.rest]

theorem of_kept (n : Node) : n.Evolved (n.kept .single) := by
  refine ⟨rfl, .inl ⟨rfl, ?_⟩, fun h => h.kept .single⟩
  rw [Node.kept, funext Tensor.kept_single]
  exact List.map_id _

/-- Weights keep the lengths of their shapes and payloads. -/
theorem exists_weight (h : n.Evolved m) {u : Tensor} (hu : u ∈ m.weights) :
    ∃ t ∈ n.weights, u.rank = t.rank ∧ u.data.size = t.data.size := by
  rcases h.moved with ⟨-, hw⟩ | ⟨-, -, hR⟩
  · exact ⟨u, hw ▸ hu, rfl, rfl⟩
  · obtain ⟨t, ht, htu⟩ := exists_of_mem_right hR hu
    exact ⟨t, ht, htu.rank_eq, htu.size_eq⟩

theorem storable (h : n.Evolved m) (hs : n.Storable) : m.Storable := by
  intro u hu
  obtain ⟨t, ht, hrank, -⟩ := h.exists_weight hu
  rw [hrank]
  exact hs t ht

theorem addressable (h : n.Evolved m) (ha : n.Addressable) : m.Addressable := by
  have hpayloads : ∀ u ∈ m.weights, 4 * u.data.size ≤ maxLength := by
    intro u hu
    obtain ⟨t, ht, -, hsize⟩ := h.exists_weight hu
    rw [hsize]
    exact ha.payloads t ht
  rw [h.rest]
  exact ⟨ha.name, ha.strategy, ha.input, ha.output, hpayloads⟩

end Evolved

end Node

/-- The graph is well formed and one that the format can hold. -/
structure Graph.Persistent (g : Graph) : Prop where
  wellFormed : g.WellFormed
  storable : g.Storable
  addressable : g.Addressable

theorem Graph.Persistent.evolved {g h : Graph} (hp : g.Persistent)
    (hc : Graph.Changed (fun _ => Node.Evolved) g h) : h.Persistent := by
  have hbefore : ∀ m ∈ h.nodes, ∃ n ∈ g.nodes, n.Evolved m := by
    intro m hm
    obtain ⟨i, hi⟩ := Graph.mem_nodes_iff.mp hm
    obtain ⟨n, hn, hE⟩ := hc.exists_before hi
    exact ⟨n, Graph.mem_nodes_iff.mpr ⟨i, hn⟩, hE⟩
  refine ⟨hc.wellFormed hp.wellFormed fun _ n m hE hn => ⟨by rw [hE.rest], hE.wellFormed hn⟩,
    ⟨?_, fun m hm => ?_⟩, ⟨?_, fun m hm => ?_⟩⟩
  · rw [hc.size_eq]
    exact hp.storable.size
  · obtain ⟨n, hn, hE⟩ := hbefore m hm
    exact hE.storable (hp.storable.nodes n hn)
  · rw [hc.name]
    exact hp.addressable.name
  · obtain ⟨n, hn, hE⟩ := hbefore m hm
    exact hE.addressable (hp.addressable.nodes n hn)

theorem Snapshot.reload?_eq {g : Graph} (hp : g.Persistent) (a : Arrangement) :
    reload? a g = some (g.mapNodes (Node.kept .single)) := by
  have hencode : encodeWith a.order "fp32" g = .ok (graphBytes .single a.order g) :=
    encodeWith_name .single
  have hdecode := decode_graphBytes .single hp.wellFormed hp.storable hp.addressable
    fun n _ => a.perm n
  rw [reload?, hencode]
  simp only [hdecode]
  rfl

namespace Operation

variable {g : Graph}

/-- **An operation makes of each node what operations can make of it.** -/
theorem changed (hp : g.Persistent) (op : Operation) :
    Graph.Changed (fun _ => Node.Evolved) g (op.after g) := by
  have hrefl : Graph.Changed (fun _ => Node.Evolved) g g :=
    Graph.Changed.refl fun _ n _ => .refl n
  have hrun : ∀ canceled, Graph.Changed (fun _ => Node.Evolved) g
      (Pass.run [Resource.pass] canceled () g).1.graph := by
    intro canceled
    refine (Resource.run_changed hp.wellFormed canceled ()).imp fun _ n m _ hR => ?_
    rcases hR with ⟨he, hR⟩ | rfl
    · exact .of_reordered he.first hR
    · exact .refl _
  cases op with
  | offer i => exact hrefl
  | transform i =>
    refine (Resource.transform_changed hp.wellFormed () i).imp fun _ n m _ hR => ?_
    rcases hR with ⟨hl, hR⟩ | rfl
    · exact .of_reordered hl hR
    · exact .refl _
  | run canceled => exact hrun canceled
  | compile t canceled =>
    rw [after]
    rcases compile_graph t canceled g with h | h
    · rw [h]
      exact hrefl
    · rw [h]
      exact hrun canceled
  | reload a =>
    rw [after, reload?_eq hp, Option.getD_some]
    exact (Graph.Changed.mapNodes _).imp fun _ n m _ hm => hm ▸ .of_kept n

theorem afterAll_changed (hp : g.Persistent) (ops : List Operation) :
    Graph.Changed (fun _ => Node.Evolved) g (afterAll ops g) := by
  induction ops generalizing g with
  | nil => exact Graph.Changed.refl fun _ n _ => .refl n
  | cons op ops ih =>
    have hop := changed hp op
    exact hop.trans (ih (hp.evolved hop)) fun _ _ _ _ h h' => h.trans h'

end Operation

/-- **The weights of a node are reordered at most once.** After any operations on a graph that the
format can hold, a node that started in its first order has all its weights as at first, or it is
marked and each of its weights is moved once by the rule for it; and once marked, it stays so. -/
theorem Graph.Built.reordered_at_most_once {g : Graph} (hb : g.Built) (hs : g.Storable)
    (ha : g.Addressable) {i : Nat} {n : Node} (hn : g.node? i = some n)
    (hl : n.layout = .untransformed) (ops : List Operation) :
    ∃ m, (Operation.afterAll ops g).node? i = some m ∧
      (m.layout = .untransformed ∧ m.weights = n.weights ∨
        m.layout = .transformed ∧ List.Forall₂ n.variant.Reorders n.weights m.weights) ∧
      ∀ later, m.layout = .transformed →
        ∃ k, (Operation.afterAll (ops ++ later) g).node? i = some k ∧
          k.layout = .transformed ∧ k.weights = m.weights := by
  have hp : g.Persistent := ⟨hb.wellFormed, hs, ha⟩
  have hc := Operation.afterAll_changed hp ops
  obtain ⟨m, hm, hE⟩ := hc.exists_after hn
  refine ⟨m, hm, ?_, fun later hmarked => ?_⟩
  · rcases hE.moved with ⟨hml, hw⟩ | ⟨-, hml, hR⟩
    · exact .inl ⟨hml.trans hl, hw⟩
    · exact .inr ⟨hml, hR⟩
  · have hc' := Operation.afterAll_changed (hp.evolved hc) later
    obtain ⟨k, hk, hE'⟩ := hc'.exists_after hm
    have happend : Operation.afterAll (ops ++ later) g =
        Operation.afterAll later (Operation.afterAll ops g) := List.foldl_append
    refine ⟨k, happend ▸ hk, ?_⟩
    rcases hE'.moved with ⟨hkl, hw⟩ | ⟨hfirst, -⟩
    · exact ⟨hkl.trans hmarked, hw⟩
    · rw [hmarked] at hfirst
      exact absurd hfirst (by decide)

/-- A dense layer is reordered, stored, offered to the pass again and compiled. -/
theorem Graph.Built.reordered_at_most_once_dense :
    (denseGraph "Resource").Built ∧ (denseGraph "Resource").Storable ∧
      (denseGraph "Resource").Addressable ∧
      ∃ m, (Operation.afterAll [.run false, .reload .reversed, .transform 0, .compile .vivado false]
          (denseGraph "Resource")).node? 0 = some m ∧
        (m.layout = .untransformed ∧ m.weights = denseWeights ∨
          m.layout = .transformed ∧
            List.Forall₂ Variant.dense.Reorders denseWeights m.weights) := by
  have hb := denseGraph_built "Resource"
  obtain ⟨m, hm, hweights, -⟩ := hb.reordered_at_most_once denseGraph_storable
    denseGraph_addressable (i := 0) rfl rfl
    [.run false, .reload .reversed, .transform 0, .compile .vivado false]
  exact ⟨hb, denseGraph_storable, denseGraph_addressable, m, hm, hweights⟩

end LayerCode
