import LayerCode.Proofs.Pass.Run

/-!
# Runs of the resource pass as a list function

What a run of the resource pass makes of a graph does not depend on sweeps: the nodes are settled
one after the other, up to the first that cannot be. A settled node is not changed again, which is
why a second run finds the same nodes and ends in the same way.

* `settle`, `settleAll`: what the pass makes of one node, and of the entries of a graph;
* `settle_rest`, `settle_settle`: what settling keeps, and that it happens once;
* **`run_eq_settleAll`**: a run of any graph is settling its entries;
* `settleAll_eq_ok_iff`, **`settleAll_settleAll`**: settled entries, and settling them again.
-/

namespace LayerCode.Resource

open Text Outcome Pass

/-- What the pass makes of a node: the node reordered if the pass applies to it, else the node. -/
def settle (n : Node) : Except TransformFault Node :=
  if applies n then transformNode n else .ok n

/-- The fault of a run at a node. -/
def faultAt (n : Node) (fault : TransformFault) : Pass.Fault :=
  .transform "apply_resource_strategy" n.name fault

/-- What the pass makes of entries, and how that ends: they are settled in order, and all are left
from the first on that cannot be settled. -/
def settleAll : List (String × Node) → List (String × Node) × Except Pass.Fault Unit
  | [] => ([], .ok ())
  | (key, n) :: rest =>
    match settle n with
    | .error fault => ((key, n) :: rest, .error (faultAt n fault))
    | .ok m => ((key, m) :: (settleAll rest).1, (settleAll rest).2)

variable {n m : Node}

/-! ## One node -/

theorem commit_rest (n : Node) (staged : List (String × Layout)) :
    commit n staged = { n with weights := (commit n staged).weights, layout := .transformed } := by
  have hfold : ∀ k : Node, staged.foldl (fun m s => m.setWeight s.1 s.2) k =
      { k with weights := (staged.foldl (fun m s => m.setWeight s.1 s.2) k).weights } := by
    induction staged with
    | nil => exact fun _ => rfl
    | cons s staged ih =>
      intro k
      rw [List.foldl_cons, ih (k.setWeight s.1 s.2)]
      rfl
  rw [commit, hfold n]
  rfl

theorem transformNode_rest (he : n.Eligible) (h : transformNode n = .ok m) :
    m = { n with weights := m.weights, layout := .transformed } := by
  rw [transformNode_first he.ruled he.first] at h
  obtain ⟨staged, -, h⟩ := bind_eq_ok.mp h
  obtain rfl := Except.ok.inj h
  exact commit_rest n staged

theorem settle_of_eligible (h : n.Eligible) : settle n = transformNode n :=
  if_pos (Node.applies_iff.mpr h)

theorem settle_of_not_eligible (h : ¬ n.Eligible) : settle n = .ok n :=
  if_neg (mt Node.applies_iff.mp h)

/-- Settling a node keeps all but its weights and its layout state. -/
theorem settle_rest (h : settle n = .ok m) :
    m = { n with weights := m.weights, layout := m.layout } := by
  by_cases he : n.Eligible
  · rw [settle_of_eligible he] at h
    rw [transformNode_rest he h]
  · rw [settle_of_not_eligible he] at h
    obtain rfl := Except.ok.inj h
    rfl

theorem not_eligible_of_settle (h : settle n = .ok m) : ¬ m.Eligible := by
  by_cases he : n.Eligible
  · rw [settle_of_eligible he] at h
    have hl : m.layout = .transformed := by rw [transformNode_rest he h]
    exact fun hm => absurd (hm.first.symm.trans hl) (by decide)
  · rw [settle_of_not_eligible he] at h
    exact Except.ok.inj h ▸ he

/-- **A node is settled once.** -/
theorem settle_settle (h : settle n = .ok m) : settle m = .ok m :=
  settle_of_not_eligible (not_eligible_of_settle h)

/-! ## Entries -/

theorem settleAll_cons_ok (key : String) (h : settle n = .ok m) (rest : List (String × Node)) :
    settleAll ((key, n) :: rest) = ((key, m) :: (settleAll rest).1, (settleAll rest).2) := by
  rw [settleAll, h]

theorem settleAll_cons_error (key : String) {fault : TransformFault} (h : settle n = .error fault)
    (rest : List (String × Node)) :
    settleAll ((key, n) :: rest) = ((key, n) :: rest, .error (faultAt n fault)) := by
  rw [settleAll, h]

/-- Entries can be settled if every node can. -/
theorem settleAll_eq_ok_iff {es fs : List (String × Node)} :
    settleAll es = (fs, .ok ()) ↔
      List.Forall₂ (fun e f => f.1 = e.1 ∧ settle e.2 = .ok f.2) es fs := by
  induction es generalizing fs with
  | nil =>
    rw [List.forall₂_nil_left_iff, settleAll, Prod.mk.injEq, eq_comm]
    exact and_iff_left rfl
  | cons e es ih =>
    obtain ⟨key, n⟩ := e
    rw [List.forall₂_cons_left_iff]
    constructor
    · intro h
      rcases hn : settle n with fault | m
      · simp [settleAll_cons_error key hn] at h
      · rw [settleAll_cons_ok key hn, Prod.mk.injEq] at h
        obtain ⟨rfl, hend⟩ := h
        exact ⟨(key, m), _, ⟨rfl, rfl⟩, ih.mp (Prod.ext rfl hend), rfl⟩
    · rintro ⟨⟨key', m⟩, fs, ⟨hkey, hm⟩, hrest, rfl⟩
      rw [settleAll_cons_ok key hm, ih.mpr hrest, ← show key' = key from hkey]

/-- **Settling again finds the same**, also after it ended at a node that cannot be settled. -/
theorem settleAll_settleAll (es : List (String × Node)) :
    settleAll (settleAll es).1 = settleAll es := by
  induction es with
  | nil => rfl
  | cons e es ih =>
    obtain ⟨key, n⟩ := e
    cases hn : settle n with
    | error fault => rw [settleAll_cons_error key hn, settleAll_cons_error key hn]
    | ok m => rw [settleAll_cons_ok key hn, settleAll_cons_ok key (settle_settle hn), ih]

/-! ## Runs -/

variable {σ : Type}

theorem node?_length {name : String} {front rest : List (String × Node)} {e : String × Node} :
    (⟨name, front ++ e :: rest⟩ : Graph).node? front.length = some e.2 := by
  simp [Graph.node?]

theorem setNode_length {name key : String} {front rest : List (String × Node)} :
    (⟨name, front ++ (key, n) :: rest⟩ : Graph).setNode front.length m =
      ⟨name, front ++ (key, m) :: rest⟩ := by
  simp [Graph.setNode, List.modify_eq_take_cons_drop]

/-- **A sweep from a place on settles the entries from there on.** -/
theorem sweep_eq_settleAll (state : σ) (name : String) (front rest : List (String × Node))
    (journal : Journal) (a : Nat) :
    ∃ journal' count,
      sweep ((List.range' front.length rest.length).map fun i => (i, pass)) a
          ⟨state, ⟨name, front ++ rest⟩, journal⟩ =
        (⟨state, ⟨name, front ++ (settleAll rest).1⟩, journal'⟩,
          (settleAll rest).2.map fun _ => count) := by
  induction rest generalizing front journal a with
  | nil => exact ⟨journal, a, rfl⟩
  | cons e rest ih =>
    obtain ⟨key, n⟩ := e
    -- The places behind this one are those of the entries behind it, whatever becomes of it.
    have hplaces : ∀ k : Node, List.range' (front.length + 1) rest.length =
        List.range' (front ++ [(key, k)]).length rest.length := by simp
    rw [List.length_cons, List.range'_succ, List.map_cons]
    have hnode : (⟨state, ⟨name, front ++ (key, n) :: rest⟩, journal⟩ : Progress σ).graph.node?
        front.length = some n := node?_length
    by_cases he : n.Eligible
    · cases hm : transformNode n with
      | error fault =>
        obtain ⟨journal', hend⟩ := sweep_misfit
          ((List.range' (front.length + 1) rest.length).map fun i => (i, pass)) a hnode he hm
        refine ⟨journal', a, hend.trans ?_⟩
        rw [settleAll_cons_error key ((settle_of_eligible he).trans hm)]
        rfl
      | ok m =>
        obtain ⟨journal', hstep⟩ := sweep_fit
          ((List.range' (front.length + 1) rest.length).map fun i => (i, pass)) a hnode he hm
        obtain ⟨last, count, hrest⟩ := ih (front ++ [(key, m)]) journal' (a + 1)
        refine ⟨last, count, hstep.trans ?_⟩
        rw [settleAll_cons_ok key ((settle_of_eligible he).trans hm), setNode_length, hplaces m]
        simpa using hrest
    · obtain ⟨last, count, hrest⟩ := ih (front ++ [(key, n)]) journal a
      refine ⟨last, count, (sweep_skip _ a fun k hk => ?_).trans ?_⟩
      · exact Option.some.inj (hnode.symm.trans hk) ▸ he
      · rw [settleAll_cons_ok key (settle_of_not_eligible he), hplaces n]
        simpa using hrest

/-- **A run settles the entries of a graph**, whatever graph it is. -/
theorem run_eq_settleAll (state : σ) (g : Graph) :
    ∃ journal, run [pass] false state g =
      (⟨state, ⟨g.name, (settleAll g.entries).1⟩, journal⟩, (settleAll g.entries).2) := by
  obtain ⟨journal, count, hsweep⟩ := sweep_eq_settleAll state g.name [] g.entries {} 0
  have hfirst : sweep (steps [pass] g) 0 ⟨state, g, {}⟩ =
      (⟨state, ⟨g.name, (settleAll g.entries).1⟩, journal⟩,
        (settleAll g.entries).2.map fun _ => count) := by
    rw [steps_pass]
    exact hsweep
  rcases hall : settleAll g.entries with ⟨es, fault | u⟩
  · rw [hall] at hfirst
    exact ⟨journal, runFrom_of_error 63 hfirst⟩
  · simp only [hall, Except.map] at hfirst
    cases count with
    | zero =>
      have hrun : run [pass] false state g = _ := runFrom_of_zero 63 hfirst
      exact ⟨_, hrun⟩
    | succ count =>
      -- No settled node is eligible, so the second sweep finds nothing to do.
      have hidle : sweep (steps [pass] ⟨g.name, es⟩) 0 ⟨state, ⟨g.name, es⟩, journal⟩ =
          (⟨state, ⟨g.name, es⟩, journal⟩, .ok 0) := by
        rw [steps_pass]
        refine sweep_idle _ _ fun m hm => ?_
        obtain ⟨e, he, rfl⟩ := List.mem_map.mp hm
        obtain ⟨_, -, -, hsettle⟩ := exists_of_mem_right (settleAll_eq_ok_iff.mp hall) he
        exact not_eligible_of_settle hsettle
      have hrun : run [pass] false state g = _ :=
        (runFrom_of_succ 63 hfirst).trans (runFrom_of_zero 62 hidle)
      exact ⟨_, hrun⟩

end LayerCode.Resource
