import Mathlib.Data.List.Basic
import LayerCode.Pass.Basic
import LayerCode.Proofs.Outcome

/-!
# What a run of passes calls

The transforms that a run calls, sweep by sweep, for passes that may do anything: change the graph
and their state, ask to start over, or fail. That a run calls these transforms, in this order, is
seen by passes that write down their calls.

* `Call`, `calls`, `history`: a call of a transform, the calls of a sweep, and those of a run;
* `recording`, **`run_recording`**: passes that write down their calls write down the history, and
  do all else as before;
* **`sweep_cases`**: what a sweep does, by its calls;
* **`runFrom_cases`**: what the next sweep of a run does to the run.
-/

namespace LayerCode.Pass

open Outcome

variable {σ : Type}

/-- The pass applies to the node at a place. -/
def matchesAt (p : Pass σ) (state : σ) (g : Graph) (i : Nat) : Bool :=
  (g.node? i).any (p.applies state)

theorem matchesAt_eq_true {p : Pass σ} {state : σ} {g : Graph} {i : Nat} :
    p.matchesAt state g i = true ↔ ∃ n, g.node? i = some n ∧ p.applies state n = true := by
  rw [matchesAt, Option.any_eq_true]

/-- A call of a transform: the pass, the place of the node, and the state and the graph before. -/
structure Call (σ : Type) where
  pass : Pass σ
  place : Nat
  state : σ
  graph : Graph

namespace Call

/-- What the transform did. -/
def effect (c : Call σ) : Effect σ := c.pass.transform c.state c.graph c.place

/-- The node as the transform left it, or as it was if the transform took it away. -/
def node? (c : Call σ) : Option Node := (c.effect.graph.node? c.place).or (c.graph.node? c.place)

/-- How far a run is after the call. -/
def after (c : Call σ) (journal : Journal) : Progress σ := ⟨c.effect.state, c.effect.graph, journal⟩

theorem exists_of (p : Pass σ) (i : Nat) (state : σ) (g : Graph) :
    ∃ c : Call σ, c.pass = p ∧ c.place = i ∧ c.state = state ∧ c.graph = g :=
  ⟨⟨p, i, state, g⟩, rfl, rfl, rfl, rfl⟩

end Call

/-- The calls of a sweep. It ends early at a fault, or if a transform asks to start over. -/
def calls : List (Nat × Pass σ) → σ → Graph → List (Call σ)
  | [], _, _ => []
  | (i, p) :: steps, state, g =>
    if p.matchesAt state g i then
      let c : Call σ := ⟨p, i, state, g⟩
      match c.effect.restart with
      | .ok false => c :: calls steps c.effect.state c.effect.graph
      | .ok true | .error _ => [c]
    else calls steps state g

/-- The calls of at most `left` sweeps. Each sweep starts anew from what the last call of the one
before it left, and there is no further one after a sweep without a call or with a fault. -/
def history (passes : List (Pass σ)) : Nat → σ → Graph → List (List (Call σ))
  | 0, _, _ => []
  | left + 1, state, g =>
    let made := calls (steps passes g) state g
    match made.getLast? with
    | none => [made]
    | some c =>
      match c.effect.restart with
      | .error _ => [made]
      | .ok _ => made :: history passes left c.effect.state c.effect.graph

variable {p : Pass σ} {i : Nat} {n : Node} {state : σ} {g : Graph} {rest : List (Nat × Pass σ)}

/-! ## Sweeps -/

theorem applyAt_call (c : Call σ) (n : Node) (journal : Journal) :
    ∃ journal', applyAt c.pass c.place n ⟨c.state, c.graph, journal⟩ = (c.after journal',
      c.effect.restart.mapError
        (.transform c.pass.name ((c.effect.graph.node? c.place).getD n).name)) := by
  have hname : ((c.effect.graph.node? c.place).map Node.name).getD n.name =
      ((c.effect.graph.node? c.place).getD n).name := by
    cases c.effect.graph.node? c.place <;> rfl
  rw [← hname]
  unfold applyAt Call.after Call.effect
  dsimp only
  cases (c.pass.transform c.state c.graph c.place).restart with
  | error fault => exact ⟨_, rfl⟩
  | ok again => exact ⟨_, rfl⟩

section Step

variable (rest) (a : Nat) (journal : Journal)

theorem sweep_of_applies (cur : Progress σ) (hn : cur.graph.node? i = some n)
    (h : p.applies cur.state n = true) :
    sweep ((i, p) :: rest) a cur =
      match applyAt p i n cur with
      | (after, .error fault) => (after, .error fault)
      | (after, .ok true) => (after, .ok (a + 1))
      | (after, .ok false) => sweep rest (a + 1) after := by
  rw [sweep, hn]
  exact if_pos h

theorem sweep_of_unmatched (h : p.matchesAt state g i = false) :
    sweep ((i, p) :: rest) a ⟨state, g, journal⟩ = sweep rest a ⟨state, g, journal⟩ := by
  rw [sweep]
  cases hn : g.node? i with
  | none => rfl
  | some n =>
    rw [matchesAt, hn, Option.any_some] at h
    simp only [h, Bool.false_eq_true, if_false]

/-- What becomes of a sweep at a node that the pass applies to depends on the answer only. -/
theorem sweep_of_matched {c : Call σ} (h : c.pass.matchesAt c.state c.graph c.place = true) :
    ∃ m journal', c.node? = some m ∧
      sweep ((c.place, c.pass) :: rest) a ⟨c.state, c.graph, journal⟩ =
        match c.effect.restart with
        | .error fault => (c.after journal', .error (.transform c.pass.name m.name fault))
        | .ok true => (c.after journal', .ok (a + 1))
        | .ok false => sweep rest (a + 1) (c.after journal') := by
  obtain ⟨n, hn, happ⟩ := matchesAt_eq_true.mp h
  obtain ⟨journal', heq⟩ := applyAt_call c n journal
  refine ⟨(c.effect.graph.node? c.place).getD n, journal', ?_, ?_⟩
  · rw [Call.node?, hn]
    cases c.effect.graph.node? c.place <;> rfl
  · rw [sweep_of_applies rest a ⟨c.state, c.graph, journal⟩ hn happ, heq]
    rcases c.effect.restart with fault | _ | _ <;> rfl

end Step

theorem calls_of_unmatched (h : p.matchesAt state g i = false) :
    calls ((i, p) :: rest) state g = calls rest state g := by
  rw [calls, h]
  rfl

section Matched

variable {c : Call σ} (h : c.pass.matchesAt c.state c.graph c.place = true)
include h

theorem calls_of_last (hr : c.effect.restart ≠ .ok false) :
    calls ((c.place, c.pass) :: rest) c.state c.graph = [c] := by
  rw [calls, if_pos h]
  rcases hc : c.effect.restart with fault | _ | _
  · simp only [hc]
  · exact absurd hc hr
  · simp only [hc]

theorem calls_of_ok (hr : c.effect.restart = .ok false) :
    calls ((c.place, c.pass) :: rest) c.state c.graph =
      c :: calls rest c.effect.state c.effect.graph := by
  rw [calls, if_pos h]
  simp only [hr]

end Matched

/-- The first call of a sweep is for the first pair of a place and a pass, in the order of the
steps, where the pass applies. -/
theorem head?_calls (rest : List (Nat × Pass σ)) (state : σ) (g : Graph) :
    (calls rest state g).head? =
      (rest.find? fun e => e.2.matchesAt state g e.1).map fun e => ⟨e.2, e.1, state, g⟩ := by
  induction rest with
  | nil => rfl
  | cons e rest ih =>
    obtain ⟨i, p⟩ := e
    cases h : p.matchesAt state g i with
    | false => rw [calls_of_unmatched h, List.find?_cons_of_neg (by simp [h]), ih]
    | true =>
      rw [List.find?_cons_of_pos (by simp [h])]
      obtain ⟨c, rfl, rfl, rfl, rfl⟩ := Call.exists_of p i state g
      by_cases hr : c.effect.restart = .ok false
      · rw [calls_of_ok h hr]
        rfl
      · rw [calls_of_last h hr]
        rfl

/-- **What a sweep does, by its calls.** A sweep without a call found no node that a pass applies
to. Otherwise all calls but the last went well and did not ask to start over, and the last one
decides how the sweep ends. -/
theorem sweep_cases (rest : List (Nat × Pass σ)) (a : Nat) (state : σ) (g : Graph)
    (journal : Journal) :
    calls rest state g = [] ∧ sweep rest a ⟨state, g, journal⟩ = (⟨state, g, journal⟩, .ok a) ∧
        (∀ e ∈ rest, e.2.matchesAt state g e.1 = false) ∨
      ∃ front c m journal' count, calls rest state g = front ++ [c] ∧
        (∀ d ∈ front, d.effect.restart = .ok false) ∧ c.node? = some m ∧
        sweep rest a ⟨state, g, journal⟩ = (c.after journal',
          (c.effect.restart.mapError (.transform c.pass.name m.name)).map fun _ => count + 1) := by
  induction rest generalizing a state g journal with
  | nil => exact .inl ⟨rfl, rfl, fun e he => absurd he List.not_mem_nil⟩
  | cons e rest ih =>
    obtain ⟨i, p⟩ := e
    cases h : p.matchesAt state g i with
    | false =>
      rw [calls_of_unmatched h, sweep_of_unmatched rest a journal h, List.forall_mem_cons]
      rcases ih a state g journal with ⟨hcalls, hsweep, hall⟩ | hcall
      · exact .inl ⟨hcalls, hsweep, h, hall⟩
      · exact .inr hcall
    | true =>
      right
      obtain ⟨c, rfl, rfl, rfl, rfl⟩ := Call.exists_of p i state g
      obtain ⟨m, journal', hm, hsweep⟩ := sweep_of_matched rest a journal h
      rcases hr : c.effect.restart with fault | _ | _
      · refine ⟨[], c, m, journal', a, calls_of_last h (by simp [hr]), by simp, hm, ?_⟩
        rw [hsweep, hr]
        rfl
      · rw [calls_of_ok h hr]
        rw [hr] at hsweep
        -- The last call of the sweep is one behind this one, or this one if there is none.
        rcases ih (a + 1) c.effect.state c.effect.graph journal' with
          ⟨hcalls, hrest, -⟩ | ⟨front, d, k, last, count, hcalls, hfront, hk, hrest⟩
        · refine ⟨[], c, m, journal', a, by rw [hcalls]; rfl, by simp, hm, ?_⟩
          rw [hr]
          exact hsweep.trans hrest
        · refine ⟨c :: front, d, k, last, count, by rw [hcalls]; rfl, ?_, hk, hsweep.trans hrest⟩
          exact List.forall_mem_cons.mpr ⟨hr, hfront⟩
      · refine ⟨[], c, m, journal', a, calls_of_last h (by simp [hr]), by simp, hm, ?_⟩
        rw [hsweep, hr]
        rfl

/-! ## Runs -/

section Round

variable {passes : List (Pass σ)} {cur after : Progress σ} (left : Nat)

theorem runFrom_of_error {fault : Fault}
    (h : sweep (steps passes cur.graph) 0 cur = (after, .error fault)) :
    runFrom passes false (left + 1) cur = (after, .error fault) := by
  rw [runFrom, h]
  rfl

theorem runFrom_of_zero (h : sweep (steps passes cur.graph) 0 cur = (after, .ok 0)) :
    runFrom passes false (left + 1) cur =
      (⟨after.state, after.graph,
        after.journal ++ .event (.fixedPoint after.graph.name (maxSweeps - left))⟩, .ok ()) := by
  rw [runFrom, h]
  rfl

theorem runFrom_of_succ {count : Nat}
    (h : sweep (steps passes cur.graph) 0 cur = (after, .ok (count + 1))) :
    runFrom passes false (left + 1) cur = runFrom passes false left after := by
  rw [runFrom, h]
  rfl

end Round

/-- A run that is canceled ends before its first sweep, even if there is nothing to do. -/
theorem not_canceled_of_run {passes : List (Pass σ)} {canceled : Bool} {after : Progress σ}
    (h : run passes canceled state g = (after, .ok ())) : canceled = false := by
  cases canceled with
  | true => simp [run, runFrom, maxSweeps] at h
  | false => rfl

section History

variable {passes : List (Pass σ)} {front : List (Call σ)} {c : Call σ} (left : Nat)

theorem history_of_nil (h : calls (steps passes g) state g = []) :
    history passes (left + 1) state g = [[]] := by
  rw [history, h]
  rfl

theorem history_of_error {fault : TransformFault}
    (h : calls (steps passes g) state g = front ++ [c]) (hr : c.effect.restart = .error fault) :
    history passes (left + 1) state g = [front ++ [c]] := by
  rw [history, h]
  simp only [List.getLast?_concat, hr]

theorem history_of_ok {again : Bool} (h : calls (steps passes g) state g = front ++ [c])
    (hr : c.effect.restart = .ok again) :
    history passes (left + 1) state g =
      (front ++ [c]) :: history passes left c.effect.state c.effect.graph := by
  rw [history, h]
  simp only [List.getLast?_concat, hr]

end History

/-- **What the next sweep does to a run.** Without a call the run has come to its fixed point, after
a fault it ends with it, and otherwise it goes on from what the last call left. -/
theorem runFrom_cases (passes : List (Pass σ)) (left : Nat) (state : σ) (g : Graph)
    (journal : Journal) :
    (history passes (left + 1) state g = [[]] ∧
      (∃ last, runFrom passes false (left + 1) ⟨state, g, journal⟩ = (⟨state, g, last⟩, .ok ())) ∧
      ∀ e ∈ steps passes g, e.2.matchesAt state g e.1 = false) ∨
    ∃ front c m last, (∀ d ∈ front, d.effect.restart = .ok false) ∧ c.node? = some m ∧
      ((∃ fault, c.effect.restart = .error fault ∧
          history passes (left + 1) state g = [front ++ [c]] ∧
          runFrom passes false (left + 1) ⟨state, g, journal⟩ =
            (c.after last, .error (.transform c.pass.name m.name fault))) ∨
        ∃ again, c.effect.restart = .ok again ∧
          history passes (left + 1) state g =
            (front ++ [c]) :: history passes left c.effect.state c.effect.graph ∧
          runFrom passes false (left + 1) ⟨state, g, journal⟩ =
            runFrom passes false left (c.after last)) := by
  rcases sweep_cases (steps passes g) 0 state g journal with
    ⟨hcalls, hsweep, hall⟩ | ⟨front, c, m, last, count, hcalls, hfront, hm, hsweep⟩
  · have hrun : runFrom passes false (left + 1) ⟨state, g, journal⟩ = _ :=
      runFrom_of_zero left hsweep
    exact .inl ⟨history_of_nil left hcalls, ⟨_, hrun⟩, hall⟩
  · refine .inr ⟨front, c, m, last, hfront, hm, ?_⟩
    cases hr : c.effect.restart with
    | error fault =>
      rw [hr] at hsweep
      exact .inl ⟨fault, rfl, history_of_error left hcalls hr, runFrom_of_error left hsweep⟩
    | ok again =>
      rw [hr] at hsweep
      exact .inr ⟨again, rfl, history_of_ok left hcalls hr, runFrom_of_succ left hsweep⟩

/-! ## Passes that write down their calls -/

/-- The pass, with the calls of its transform written down in its state. -/
def recording (p : Pass σ) : Pass (σ × List (Call σ)) where
  name := p.name
  applies state n := p.applies state.1 n
  transform state g i :=
    let c : Call σ := ⟨p, i, state.1, g⟩
    { state := (c.effect.state, state.2 ++ [c])
      graph := c.effect.graph
      events := c.effect.events
      restart := c.effect.restart }

/-- How far a run is, with calls written down. -/
def Progress.recorded (cur : Progress σ) (made : List (Call σ)) : Progress (σ × List (Call σ)) :=
  ⟨(cur.state, made), cur.graph, cur.journal⟩

theorem applyAt_recording (p : Pass σ) (i : Nat) (n : Node) (cur : Progress σ)
    (made : List (Call σ)) :
    applyAt p.recording i n (cur.recorded made) =
      ((applyAt p i n cur).1.recorded (made ++ [⟨p, i, cur.state, cur.graph⟩]),
        (applyAt p i n cur).2) := by
  simp only [applyAt, recording, Progress.recorded, Call.effect]
  cases (p.transform cur.state cur.graph i).restart <;> rfl

theorem sweep_recording (rest : List (Nat × Pass σ)) (a : Nat) (cur : Progress σ)
    (made : List (Call σ)) :
    sweep (rest.map fun e => (e.1, e.2.recording)) a (cur.recorded made) =
      ((sweep rest a cur).1.recorded (made ++ calls rest cur.state cur.graph),
        (sweep rest a cur).2) := by
  induction rest generalizing a cur made with
  | nil => rw [List.map_nil, sweep, sweep, calls, List.append_nil]
  | cons e rest ih =>
    obtain ⟨i, p⟩ := e
    obtain ⟨state, g, journal⟩ := cur
    cases h : p.matchesAt state g i with
    | false =>
      rw [calls_of_unmatched h, sweep_of_unmatched rest a journal h, ← ih]
      exact sweep_of_unmatched _ a journal h
    | true =>
      obtain ⟨n, hn, happ⟩ := matchesAt_eq_true.mp h
      obtain ⟨c, rfl, rfl, rfl, rfl⟩ := Call.exists_of p i state g
      obtain ⟨journal', heq⟩ := applyAt_call c n journal
      have hrec := sweep_of_applies (p := c.pass.recording)
        (rest.map fun e => (e.1, e.2.recording)) a
        (Progress.recorded ⟨c.state, c.graph, journal⟩ made) hn happ
      rw [List.map_cons, hrec, sweep_of_applies rest a ⟨c.state, c.graph, journal⟩ hn happ,
        applyAt_recording, heq]
      rcases hr : c.effect.restart with fault | _ | _
      · rw [calls_of_last h (by simp [hr])]
        rfl
      · have hrest := ih (a + 1) (c.after journal') (made ++ [c])
        rw [List.append_assoc] at hrest
        rw [calls_of_ok h hr]
        exact hrest
      · rw [calls_of_last h (by simp [hr])]
        rfl

theorem steps_recording (passes : List (Pass σ)) (g : Graph) :
    steps (passes.map recording) g = (steps passes g).map fun e => (e.1, e.2.recording) := by
  simp only [steps, List.map_flatMap, List.map_map, Function.comp_def]

theorem runFrom_recording (passes : List (Pass σ)) (left : Nat) (cur : Progress σ)
    (made : List (Call σ)) :
    runFrom (passes.map recording) false left (cur.recorded made) =
      ((runFrom passes false left cur).1.recorded
          (made ++ (history passes left cur.state cur.graph).flatten),
        (runFrom passes false left cur).2) := by
  induction left generalizing cur made with
  | zero => rw [runFrom, runFrom, history, List.flatten_nil, List.append_nil]; rfl
  | succ left ih =>
    have hrec : sweep (steps (passes.map recording) (cur.recorded made).graph) 0
        (cur.recorded made) = _ :=
      (congrArg (sweep · 0 _) (steps_recording passes cur.graph)).trans
        (sweep_recording (steps passes cur.graph) 0 cur made)
    rcases sweep_cases (steps passes cur.graph) 0 cur.state cur.graph cur.journal with
      ⟨hcalls, hsweep, -⟩ | ⟨front, c, m, last, count, hcalls, -, -, hsweep⟩
    · rw [hcalls, hsweep] at hrec
      rw [history_of_nil left hcalls, runFrom_of_zero left hrec, runFrom_of_zero left hsweep]
      rfl
    · rw [hcalls, hsweep] at hrec
      cases hr : c.effect.restart with
      | error fault =>
        rw [hr] at hrec hsweep
        rw [history_of_error left hcalls hr, runFrom_of_error left hrec,
          runFrom_of_error left hsweep, List.flatten_singleton]
      | ok again =>
        rw [hr] at hrec hsweep
        rw [history_of_ok left hcalls hr, runFrom_of_succ left hrec, runFrom_of_succ left hsweep,
          List.flatten_cons]
        have hrest := ih (c.after last) (made ++ (front ++ [c]))
        rw [List.append_assoc] at hrest
        exact hrest

/-- **Passes that write down their calls write down the history of the run**, and the run is the
same in all else. -/
theorem run_recording (passes : List (Pass σ)) (state : σ) (g : Graph) :
    run (passes.map recording) false (state, []) g =
      ((run passes false state g).1.recorded (history passes maxSweeps state g).flatten,
        (run passes false state g).2) :=
  runFrom_recording passes maxSweeps ⟨state, g, {}⟩ []

end LayerCode.Pass
