import Mathlib.Data.Nat.Find
import LayerCode.Proofs.Pass.History
import LayerCode.Proofs.Pass.Sweep

/-!
# Runs of the resource pass

A run comes to its fixed point in the second sweep at the latest: the first sweep reorders every
eligible node or ends at the first one that does not fit, and a reordered node is not eligible.

* `FirstMisfit`: the first eligible node, in graph order, whose weights do not fit;
* **`runFrom_fit`**, **`run_misfit`**, **`run_ok`**: what a run does and returns;
* `run_changed`: whatever a run returns, each node is reordered or as it was.
-/

namespace LayerCode.Resource

open Text Outcome Pass

variable {σ : Type} {g : Graph} {i : Nat} {n : Node} {cur : Progress σ}

/-- The node at the place is the first eligible one that does not fit. -/
structure FirstMisfit (g : Graph) (i : Nat) (n : Node) : Prop where
  node : g.node? i = some n
  eligible : n.Eligible
  misfit : ¬ n.Fits
  first : ∀ j < i, ∀ m, g.node? j = some m → m.Eligible → m.Fits

theorem exists_firstMisfit (h : ¬ ∀ n ∈ g.nodes, n.Eligible → n.Fits) :
    ∃ i n, FirstMisfit g i n := by
  classical
  have hex : ∃ i n, g.node? i = some n ∧ n.Eligible ∧ ¬ n.Fits := by
    by_contra hno
    refine h fun n hn he => ?_
    obtain ⟨i, hi⟩ := Graph.mem_nodes_iff.mp hn
    by_contra hf
    exact hno ⟨i, n, hi, he, hf⟩
  obtain ⟨n, hn, he, hf⟩ := Nat.find_spec hex
  refine ⟨Nat.find hex, n, hn, he, hf, fun j hj m hm hem => ?_⟩
  by_contra hfm
  exact Nat.find_min hex hj ⟨m, hm, hem, hfm⟩

theorem not_eligible_of_reordered {m : Node} (h : n.Reordered m) : ¬ m.Eligible := by
  intro he
  have hl : m.layout = .transformed := by rw [h.rest]
  rw [he.first] at hl
  exact absurd hl (by decide)

/-! ## Single sweeps -/

/-- A sweep over a graph whose eligible nodes all fit. -/
theorem sweep_all (cur : Progress σ) (hw : cur.graph.WellFormed)
    (hf : ∀ n ∈ cur.graph.nodes, n.Eligible → n.Fits) :
    ∃ after count, sweep (steps [pass] cur.graph) 0 cur = (after, .ok count) ∧
      Swept cur.graph.size cur.graph after.graph ∧ after.state = cur.state := by
  obtain ⟨after, count, hrun, hs, hstate⟩ := sweep_places (k := cur.graph.size) hw [] 0 cur
    (Swept.start cur.graph) fun j _ _ n hn => hf n (Graph.mem_nodes_iff.mpr ⟨j, hn⟩)
  rw [Nat.zero_add] at hs
  rw [List.append_nil, ← steps_pass, sweep] at hrun
  exact ⟨after, count, hrun, hs, hstate⟩

theorem Swept.not_eligible {h : Graph} (hs : Swept g.size g h) : ∀ n ∈ h.nodes, ¬ n.Eligible := by
  intro m hm he
  obtain ⟨i, hi⟩ := Graph.mem_nodes_iff.mp hm
  obtain ⟨n, hn, ⟨-, hR⟩ | ⟨hno, rfl⟩⟩ := hs.exists_before hi
  · exact not_eligible_of_reordered hR he
  · exact hno ⟨Graph.lt_size_of_node? hn, he⟩

/-! ## Runs -/

/-- **Two sweeps reorder a graph whose eligible nodes all fit**, and the sweep that finds nothing to
do, the first or the second, is reported. -/
theorem runFrom_fit (hw : g.WellFormed) (hf : ∀ n ∈ g.nodes, n.Eligible → n.Fits) (s : σ)
    (left : Nat) :
    ∃ after, ∃ k ≤ 1, runFrom [pass] false (left + 2) ⟨s, g, {}⟩ = (after, .ok ()) ∧
      after.state = s ∧ Swept g.size g after.graph ∧
      after.journal.events.getLast? = some (.fixedPoint g.name (maxSweeps - (left + k))) := by
  obtain ⟨after, count, hsweep, hs, hstate⟩ := sweep_all ⟨s, g, {}⟩ hw hf
  have hname : after.graph.name = g.name := hs.name
  cases count with
  | zero =>
    refine ⟨_, 1, by omega, runFrom_of_zero (left + 1) hsweep, hstate, hs, ?_⟩
    rw [← hname]
    exact List.getLast?_concat
  | succ count =>
    -- No reordered node is eligible, so the second sweep finds nothing to do.
    have hidle : sweep (steps [pass] after.graph) 0 after = (after, .ok 0) := by
      rw [steps_pass]
      exact sweep_idle _ _ hs.not_eligible
    refine ⟨_, 0, by omega, (runFrom_of_succ (left + 1) hsweep).trans (runFrom_of_zero left hidle),
      hstate, hs, ?_⟩
    rw [← hname]
    exact List.getLast?_concat

/-- **A run of a graph with an eligible node that does not fit ends at the first such node.** The
eligible nodes before it are reordered, and all else is as it was. -/
theorem run_misfit (hw : g.WellFormed) (h : FirstMisfit g i n) (s : σ) :
    ∃ after, ∃ r ∈ n.variant.rules, ∃ t ∈ n.weights, t.name = r.weight ∧ t.rank ≠ r.rank ∧
      run [pass] false s g =
        (after, .error (.transform "apply_resource_strategy" n.name (.tensor (r.misfit t)))) ∧
      after.state = s ∧ Swept i g after.graph := by
  obtain ⟨r, hr, t, ht, hname, hrank, hfault⟩ :=
    transformNode_misfit (hw.node (Graph.mem_nodes_iff.mpr ⟨i, h.node⟩)) h.eligible.ruled
      h.eligible.first h.misfit
  obtain ⟨k, hk⟩ : ∃ k, g.size = i + (k + 1) :=
    Nat.exists_eq_add_of_lt (Graph.lt_size_of_node? h.node)
  have hsteps : steps [(pass : Pass σ)] g = (List.range' 0 i).map (fun i => (i, pass)) ++
      (i, pass) :: (List.range' (i + 1) k).map fun i => (i, pass) := by
    rw [steps_pass, hk, ← List.range'_append_1, Nat.zero_add, List.range'_succ, List.map_append,
      List.map_cons]
  obtain ⟨mid, count, hmid, hs, hstate⟩ := sweep_places (k := i) hw
    ((i, pass) :: (List.range' (i + 1) k).map fun i => (i, pass)) 0 ⟨s, g, {}⟩ (Swept.start g)
    fun j _ hj m hm => h.first j (by omega) m hm
  rw [Nat.zero_add] at hs
  obtain ⟨journal, hend⟩ := sweep_misfit ((List.range' (i + 1) k).map fun i => (i, pass)) count
    (hs.node? h.node) h.eligible hfault
  rw [hend, ← hsteps] at hmid
  exact ⟨_, r, hr, t, ht, hname, hrank, runFrom_of_error 63 hmid, hstate, hs⟩

/-- **A run that succeeds has reordered every eligible node, and nothing else.** -/
theorem run_ok (hw : g.WellFormed) {canceled : Bool} {s : σ} {after : Progress σ}
    (h : run [pass] canceled s g = (after, .ok ())) : Swept g.size g after.graph := by
  obtain rfl := not_canceled_of_run h
  by_cases hf : ∀ n ∈ g.nodes, n.Eligible → n.Fits
  · obtain ⟨last, k, -, hrun, -, hs, -⟩ := runFrom_fit hw hf s 62
    obtain ⟨rfl, -⟩ := Prod.mk.inj (hrun.symm.trans h)
    exact hs
  · obtain ⟨i, n, hi⟩ := exists_firstMisfit hf
    obtain ⟨last, r, -, t, -, -, -, hrun, -⟩ := run_misfit hw hi s
    exact absurd (hrun.symm.trans h) (by simp)

theorem Swept.changed {h : Graph} (hs : Swept i g h) :
    Graph.Changed (fun _ n m => n.Eligible ∧ n.Reordered m ∨ m = n) g h :=
  hs.imp fun _ _ _ _ hR => hR.imp (fun h => ⟨h.1.2, h.2⟩) And.right

/-- Whatever a run returns, each node is reordered, if it was eligible, or as it was. -/
theorem run_changed (hw : g.WellFormed) (canceled : Bool) (s : σ) :
    Graph.Changed (fun _ n m => n.Eligible ∧ n.Reordered m ∨ m = n) g
      (run [pass] canceled s g).1.graph := by
  cases canceled with
  | true => exact Graph.Changed.refl fun _ _ _ => .inr rfl
  | false =>
    by_cases hf : ∀ n ∈ g.nodes, n.Eligible → n.Fits
    · obtain ⟨after, k, -, hrun, -, hs, -⟩ := runFrom_fit hw hf s 62
      rw [run, show maxSweeps = 62 + 2 from rfl, hrun]
      exact hs.changed
    · obtain ⟨i, n, hi⟩ := exists_firstMisfit hf
      obtain ⟨after, r, -, t, -, -, -, hrun, -, hs⟩ := run_misfit hw hi s
      rw [hrun]
      exact hs.changed

end LayerCode.Resource
