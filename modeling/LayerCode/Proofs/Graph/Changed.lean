import Mathlib.Data.List.Forall2
import LayerCode.Proofs.Graph.WellFormed

/-!
# Graphs changed node by node

A change of nodes keeps the name of the graph, the order of the nodes and the names they are listed
under.

* `node?_setNode_self`, `node?_setNode_of_ne`: the nodes after one of them was replaced;
* `Graph.Changed`: each node of one graph is related to the node at its place in another;
* **`Changed.wellFormed`**: a change that keeps nodes well formed keeps graphs well formed.
-/

namespace LayerCode.Graph

variable {g h : Graph} {i j : Nat} {n m : Node}

theorem mem_nodes_iff : n ∈ g.nodes ↔ ∃ i, g.node? i = some n := by
  simp only [nodes, node?, ← List.getElem?_map, List.mem_iff_getElem?]

theorem node?_eq_none (h : g.size ≤ i) : g.node? i = none := by
  rw [node?, List.getElem?_eq_none h, Option.map_none]

theorem exists_node? (h : i < g.size) : ∃ n, g.node? i = some n :=
  ⟨_, by rw [node?, List.getElem?_eq_getElem h, Option.map_some]⟩

theorem lt_size_of_node? (h : g.node? i = some n) : i < g.size := by
  by_contra hi
  rw [node?_eq_none (Nat.le_of_not_lt hi)] at h
  exact absurd h (by simp)

theorem node?_setNode_self (h : g.node? i = some n) : (g.setNode i m).node? i = some m := by
  obtain ⟨e, he, -⟩ := Option.map_eq_some_iff.mp h
  simp [setNode, node?, he]

theorem node?_setNode_of_ne (h : i ≠ j) : (g.setNode i m).node? j = g.node? j := by
  simp [setNode, node?, List.getElem?_modify_ne, h]

theorem node?_setNode (g : Graph) (i j : Nat) (m : Node) :
    (g.setNode i m).node? j = if i = j then (g.node? j).map fun _ => m else g.node? j := by
  split_ifs with hij
  · subst hij
    cases h : g.entries[i]? <;> simp [setNode, node?, h]
  · exact node?_setNode_of_ne hij

theorem listed_setNode : (g.setNode i m).entries.map Prod.fst = g.entries.map Prod.fst := by
  refine List.ext_getElem? fun j => ?_
  simp only [setNode, List.getElem?_map]
  by_cases hij : i = j
  · cases hj : g.entries[j]? <;> simp [hij, hj]
  · simp [List.getElem?_modify_ne, hij]

/-- The second graph is the first with each node changed as the relation says, given its place. -/
structure Changed (R : Nat → Node → Node → Prop) (g h : Graph) : Prop where
  name : h.name = g.name
  listed : h.entries.map Prod.fst = g.entries.map Prod.fst
  nodes : ∀ i n m, g.node? i = some n → h.node? i = some m → R i n m

namespace Changed

variable {R S : Nat → Node → Node → Prop}

theorem refl (hR : ∀ i n, g.node? i = some n → R i n n) : Changed R g g where
  name := rfl
  listed := rfl
  nodes i n m hn hm := by
    obtain rfl := Option.some.inj (hn.symm.trans hm)
    exact hR i n hn

theorem imp (hc : Changed R g h) (hRS : ∀ i n m, g.node? i = some n → R i n m → S i n m) :
    Changed S g h where
  name := hc.name
  listed := hc.listed
  nodes i n m hn hm := hRS i n m hn (hc.nodes i n m hn hm)

theorem mapNodes (f : Node → Node) : Changed (fun _ n m => m = f n) g (g.mapNodes f) where
  name := rfl
  listed := by simp [Graph.mapNodes, Function.comp_def]
  nodes i n m hn hm := by
    obtain ⟨e, he, rfl⟩ := Option.map_eq_some_iff.mp hn
    simpa [node?, Graph.mapNodes, he, eq_comm] using hm

theorem size_eq (hc : Changed R g h) : h.size = g.size := by
  have := congrArg List.length hc.listed
  simpa [size] using this

/-- Every node of the first graph has become a node of the second. -/
theorem exists_after (hc : Changed R g h) (hn : g.node? i = some n) :
    ∃ m, h.node? i = some m ∧ R i n m := by
  have hi : i < h.size := hc.size_eq ▸ lt_size_of_node? hn
  obtain ⟨m, hm⟩ := exists_node? hi
  exact ⟨m, hm, hc.nodes i n m hn hm⟩

/-- Every node of the second graph was a node of the first. -/
theorem exists_before (hc : Changed R g h) (hm : h.node? i = some m) :
    ∃ n, g.node? i = some n ∧ R i n m := by
  have hi : i < g.size := hc.size_eq ▸ lt_size_of_node? hm
  obtain ⟨n, hn⟩ := exists_node? hi
  exact ⟨n, hn, hc.nodes i n m hn hm⟩

theorem trans {T : Nat → Node → Node → Prop} {k : Graph} (hc : Changed R g h) (hc' : Changed S h k)
    (hRS : ∀ i n m l, R i n m → S i m l → T i n l) : Changed T g k where
  name := hc'.name.trans hc.name
  listed := hc'.listed.trans hc.listed
  nodes i n l hn hl := by
    obtain ⟨m, hm, hR⟩ := hc.exists_after hn
    exact hRS i n m l hR (hc'.nodes i m l hm hl)

theorem forall₂ (hc : Changed R g h) : List.Forall₂ (fun n m => ∃ i, R i n m) g.nodes h.nodes := by
  rw [List.forall₂_iff_get]
  refine ⟨?_, fun i hi hi' => ⟨i, hc.nodes i _ _ ?_ ?_⟩⟩
  · rw [Graph.nodes, Graph.nodes, List.length_map, List.length_map]
    exact hc.size_eq.symm
  · rw [node?, ← List.getElem?_map]
    exact List.getElem?_eq_getElem hi
  · rw [node?, ← List.getElem?_map]
    exact List.getElem?_eq_getElem hi'

/-- The node at one place is changed further. -/
theorem setNode (hc : Changed R g h) (hm : h.node? i = some m) {k : Node}
    (hself : ∀ n, g.node? i = some n → R i n m → S i n k)
    (hne : ∀ j n m, j ≠ i → R j n m → S j n m) : Changed S g (h.setNode i k) where
  name := hc.name
  listed := listed_setNode.trans hc.listed
  nodes j n l hn hl := by
    by_cases hij : i = j
    · subst hij
      rw [node?_setNode_self hm, Option.some.injEq] at hl
      exact hl ▸ hself n hn (hc.nodes i n m hn hm)
    · rw [node?_setNode_of_ne hij] at hl
      exact hne j n l (Ne.symm hij) (hc.nodes j n l hn hl)

/-- **A change that keeps nodes well formed, with their names, keeps graphs well formed.** -/
theorem wellFormed (hc : Changed R g h) (hg : g.WellFormed)
    (hR : ∀ i n m, R i n m → n.WellFormed → m.name = n.name ∧ m.WellFormed) : h.WellFormed := by
  have hall : ∀ e ∈ h.entries, ∃ d ∈ g.entries,
      e.1 = d.1 ∧ e.2.name = d.2.name ∧ e.2.WellFormed := by
    intro e he
    obtain ⟨i, hi, rfl⟩ := List.mem_iff_getElem.mp he
    have hig : i < g.entries.length := by
      have := hc.size_eq
      unfold size at this
      omega
    have hd := hg.nodes _ (List.getElem_mem hig)
    have hkey : h.entries[i].1 = g.entries[i].1 := by
      have := congrArg (·[i]?) hc.listed
      simpa [hi, hig] using this
    have hrel : R i g.entries[i].2 h.entries[i].2 :=
      hc.nodes i _ _ (by simp [node?, hig]) (by simp [node?, hi])
    exact ⟨_, List.getElem_mem hig, hkey, hR i _ _ hrel hd⟩
  refine ⟨fun e he => ?_, hc.listed ▸ hg.distinct, fun e he => ?_⟩
  · obtain ⟨d, hd, hkey, hname, -⟩ := hall e he
    rw [hkey, hname, hg.listed d hd]
  · obtain ⟨d, -, -, -, hwf⟩ := hall e he
    exact hwf

end Changed

end LayerCode.Graph
