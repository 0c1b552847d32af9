import Mathlib.Data.List.Range
import LayerCode.Proofs.Graph.Changed
import LayerCode.Proofs.Pass.Reordered

/-!
# Sweeps of the resource pass

A sweep takes the places of a graph in order. The invariant is that the places it has been at hold
reordered nodes where the graph had eligible ones, and that everything else is as it was.

* `Swept`: the graph after a sweep has been at its first places;
* `sweep_skip`, `sweep_fit`, `sweep_misfit`: one step of a sweep;
* **`sweep_places`**: a sweep goes on as long as the nodes fit;
* `sweep_idle`: a sweep of a graph without eligible nodes changes nothing.
-/

namespace LayerCode.Resource

open Text Outcome Pass

variable {σ : Type} {g : Graph} {i : Nat} {n m : Node} {cur : Progress σ}

/-- The second graph is the first after a sweep has been at the first `i` places. -/
def Swept (i : Nat) : Graph → Graph → Prop :=
  Graph.Changed fun j n m =>
    (j < i ∧ n.Eligible) ∧ n.Reordered m ∨ ¬ (j < i ∧ n.Eligible) ∧ m = n

theorem Swept.start (g : Graph) : Swept 0 g g :=
  Graph.Changed.refl fun _ _ _ => .inr ⟨fun h => absurd h.1 (Nat.not_lt_zero _), rfl⟩

theorem Swept.node? {h : Graph} (hs : Swept i g h) (hn : g.node? i = some n) :
    h.node? i = some n := by
  obtain ⟨m, hm, ⟨hlt, -⟩ | ⟨-, rfl⟩⟩ := hs.exists_after hn
  · exact absurd hlt.1 (Nat.lt_irrefl i)
  · exact hm

/-- A node that is not eligible is passed by. -/
theorem Swept.skip {h : Graph} (hs : Swept i g h) (hn : ∀ n, g.node? i = some n → ¬ n.Eligible) :
    Swept (i + 1) g h := by
  refine hs.imp fun j n m hj hR => ?_
  have hlt : j < i + 1 ∧ n.Eligible ↔ j < i ∧ n.Eligible := by
    refine ⟨fun h => ⟨?_, h.2⟩, fun h => ⟨by omega, h.2⟩⟩
    rcases Nat.lt_succ_iff_lt_or_eq.mp h.1 with hlt | rfl
    · exact hlt
    · exact absurd h.2 (hn n hj)
  simpa only [hlt] using hR

/-- An eligible node is reordered. -/
theorem Swept.put {h : Graph} (hs : Swept i g h) (hn : g.node? i = some n) (he : n.Eligible)
    (hm : n.Reordered m) : Swept (i + 1) g (h.setNode i m) := by
  refine hs.setNode (hs.node? hn) (fun k hk _ => ?_) fun j k l hj hR => ?_
  · obtain rfl := Option.some.inj (hn.symm.trans hk)
    exact .inl ⟨⟨Nat.lt_succ_self i, he⟩, hm⟩
  · have hlt : j < i + 1 ∧ k.Eligible ↔ j < i ∧ k.Eligible := by
      refine ⟨fun h => ⟨by omega, h.2⟩, fun h => ⟨by omega, h.2⟩⟩
    simpa only [hlt] using hR

/-! ## One step -/

theorem sweep_skip (steps : List (Nat × Pass σ)) (a : Nat)
    (hn : ∀ n, cur.graph.node? i = some n → ¬ n.Eligible) :
    sweep ((i, pass) :: steps) a cur = sweep steps a cur := by
  rw [sweep]
  cases hi : cur.graph.node? i with
  | none => rfl
  | some n =>
    have happ : pass.applies cur.state n = false := by
      rw [← Bool.not_eq_true]
      exact fun h => hn n hi (Node.applies_iff.mp h)
    simp only [happ, Bool.false_eq_true, if_false]

theorem sweep_fit (steps : List (Nat × Pass σ)) (a : Nat) (hn : cur.graph.node? i = some n)
    (he : n.Eligible) (hm : transformNode n = .ok m) :
    ∃ journal, sweep ((i, pass) :: steps) a cur =
      sweep steps (a + 1) ⟨cur.state, cur.graph.setNode i m, journal⟩ := by
  have happ : pass.applies cur.state n = true := Node.applies_iff.mpr he
  have htr : (pass : Pass σ).transform cur.state cur.graph i =
      ⟨cur.state, cur.graph.setNode i m, events n, .ok false⟩ := by
    simp only [pass, transform, hn, hm]
  rw [sweep, hn]
  simp only [happ, if_true, applyAt, htr]
  exact ⟨_, rfl⟩

theorem sweep_misfit (steps : List (Nat × Pass σ)) (a : Nat) (hn : cur.graph.node? i = some n)
    (he : n.Eligible) {fault : TransformFault} (hm : transformNode n = .error fault) :
    ∃ journal, sweep ((i, pass) :: steps) a cur =
      (⟨cur.state, cur.graph, journal⟩,
        .error (.transform "apply_resource_strategy" n.name fault)) := by
  have happ : pass.applies cur.state n = true := Node.applies_iff.mpr he
  have htr : (pass : Pass σ).transform cur.state cur.graph i =
      ⟨cur.state, cur.graph, events n, .error fault⟩ := by
    simp only [pass, transform, hn, hm]
  rw [sweep, hn]
  simp only [happ, if_true, applyAt, htr, hn, Option.map_some, Option.getD_some]
  exact ⟨_, rfl⟩

/-! ## Many steps -/

theorem steps_pass (g : Graph) :
    steps [(pass : Pass σ)] g = (List.range' 0 g.size).map fun i => (i, pass) := by
  rw [steps, List.range_eq_range', List.map_eq_flatMap]
  rfl

/-- **A sweep goes on as long as the eligible nodes fit.** -/
theorem sweep_places (hw : g.WellFormed) (rest : List (Nat × Pass σ)) {k : Nat} (a : Nat)
    (cur : Progress σ) (hs : Swept i g cur.graph)
    (hf : ∀ j, i ≤ j → j < i + k → ∀ n, g.node? j = some n → n.Eligible → n.Fits) :
    ∃ after count, sweep ((List.range' i k).map (fun i => (i, pass)) ++ rest) a cur =
        sweep rest count after ∧ Swept (i + k) g after.graph ∧ after.state = cur.state := by
  induction k generalizing i a cur with
  | zero => exact ⟨cur, a, rfl, hs, rfl⟩
  | succ k ih =>
    rw [List.range'_succ, List.map_cons, List.cons_append]
    have hf' : ∀ j, i + 1 ≤ j → j < i + 1 + k → ∀ n, g.node? j = some n → n.Eligible → n.Fits :=
      fun j hij hjk => hf j (by omega) (by omega)
    have hik : i + 1 + k = i + (k + 1) := by omega
    by_cases he : ∃ n, g.node? i = some n ∧ n.Eligible
    · obtain ⟨n, hn, he⟩ := he
      obtain ⟨m, hm, hR⟩ :=
        transformNode_fit (hw.node (Graph.mem_nodes_iff.mpr ⟨i, hn⟩)) he.ruled he.first
          (hf i (Nat.le_refl i) (by omega) n hn he)
      obtain ⟨journal, hstep⟩ := sweep_fit
        ((List.range' (i + 1) k).map (fun i => (i, pass)) ++ rest) a (hs.node? hn) he hm
      obtain ⟨after, count, hrun, hswept, hstate⟩ :=
        ih (a + 1) ⟨cur.state, cur.graph.setNode i m, journal⟩ (hs.put hn he hR) hf'
      exact ⟨after, count, hstep.trans hrun, hik ▸ hswept, hstate⟩
    · have hskip : ∀ n, g.node? i = some n → ¬ n.Eligible := fun n hn he' => he ⟨n, hn, he'⟩
      have hcur : ∀ n, cur.graph.node? i = some n → ¬ n.Eligible := by
        intro m hm
        obtain ⟨n, hn, -⟩ := hs.exists_before hm
        rw [hs.node? hn, Option.some.injEq] at hm
        exact hm ▸ hskip n hn
      obtain ⟨after, count, hrun, hswept, hstate⟩ := ih a cur (hs.skip hskip) hf'
      exact ⟨after, count, (sweep_skip _ _ hcur).trans hrun, hik ▸ hswept, hstate⟩

/-- A sweep of a graph without eligible nodes changes nothing. -/
theorem sweep_idle (places : List Nat) (a : Nat) (hn : ∀ n ∈ cur.graph.nodes, ¬ n.Eligible) :
    sweep (places.map fun i => (i, pass)) a cur = (cur, .ok a) := by
  induction places with
  | nil => rfl
  | cons i places ih =>
    rw [List.map_cons, sweep_skip _ _ fun n hi => hn n (Graph.mem_nodes_iff.mpr ⟨i, hi⟩), ih]

end LayerCode.Resource
