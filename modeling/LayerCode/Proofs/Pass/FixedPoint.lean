import LayerCode.Proofs.Graph.Built
import LayerCode.Proofs.Graph.Changed
import LayerCode.Proofs.Pass.History

/-!
# Runs stop at a fixed point

What holds of a run of any passes, whatever their transforms do: it succeeds only if no pass applies
to a node that is left, ends with the first fault, gives up only after as many sweeps as it may
take, and starts over when it is asked to.

* `applies_eq_false_of_ok`, `ends_of_error`, `notConverged_iff`, `next_of_restart`: the four facts,
  of what is left of a run, each by induction on the sweeps that it may still take;
* **`run_stops_at_fixed_point`**.
-/

namespace LayerCode.Pass

variable {σ : Type} {passes : List (Pass σ)} {state : σ} {g : Graph}

theorem applies_eq_false_of_steps (h : ∀ e ∈ steps passes g, e.2.matchesAt state g e.1 = false) :
    ∀ n ∈ g.nodes, ∀ p ∈ passes, p.applies state n = false := by
  intro n hn p hp
  obtain ⟨i, hi⟩ := Graph.mem_nodes_iff.mp hn
  have hplace : i ∈ List.range g.size := List.mem_range.mpr (Graph.lt_size_of_node? hi)
  have hmem : (i, p) ∈ steps passes g :=
    List.mem_flatMap.mpr ⟨i, hplace, List.mem_map_of_mem hp⟩
  have hno := h (i, p) hmem
  rwa [matchesAt, hi, Option.any_some] at hno

section Split

variable {α : Type} {P : α → Prop} {as bs before later : List α} {a b : α}

/-- An element unlike all of the first list is one of the second. -/
theorem exists_split_right (has : ∀ x ∈ as, ¬ P x) (ha : P a)
    (h : as ++ bs = before ++ a :: later) : ∃ between, bs = between ++ a :: later := by
  induction as generalizing before with
  | nil => exact ⟨before, h⟩
  | cons x as ih =>
    rw [List.forall_mem_cons] at has
    cases before with
    | nil => exact absurd ((List.cons.inj h).1 ▸ ha) has.1
    | cons y before => exact ih has.2 (List.cons.inj h).2

theorem eq_last_of_split (has : ∀ x ∈ as, ¬ P x) (ha : P a)
    (h : as ++ [b] = before ++ a :: later) : b = a ∧ later = [] := by
  obtain ⟨between, hlast⟩ := exists_split_right has ha h
  cases between with
  | nil => exact ⟨(List.cons.inj hlast).1, (List.cons.inj hlast).2.symm⟩
  | cons y between => simp at hlast

end Split

/-- **A run that succeeds leaves no node that a pass applies to.** -/
theorem applies_eq_false_of_ok {left : Nat} {journal : Journal}
    (h : (runFrom passes false left ⟨state, g, journal⟩).2 = .ok ()) :
    ∀ n ∈ (runFrom passes false left ⟨state, g, journal⟩).1.graph.nodes, ∀ p ∈ passes,
      p.applies (runFrom passes false left ⟨state, g, journal⟩).1.state n = false := by
  induction left generalizing state g journal with
  | zero => exact absurd h (by simp [runFrom])
  | succ left ih =>
    rcases runFrom_cases passes left state g journal with
      ⟨-, ⟨last, hrun⟩, hnone⟩ | ⟨front, c, m, last, -, -, ⟨fault, -, -, hrun⟩ | ⟨_, -, -, hrun⟩⟩
    · rw [hrun]
      exact applies_eq_false_of_steps hnone
    · rw [hrun] at h
      exact absurd h (by simp)
    · rw [hrun] at h ⊢
      exact ih h

/-- **A fault ends the run**: the call that failed is the last one, and what it left is left. -/
theorem ends_of_error {left : Nat} (journal : Journal) {before later : List (Call σ)} {c : Call σ}
    {fault : TransformFault} (h : (history passes left state g).flatten = before ++ c :: later)
    (hc : c.effect.restart = .error fault) :
    later = [] ∧ ∃ m last, c.node? = some m ∧
      runFrom passes false left ⟨state, g, journal⟩ =
        (c.after last, .error (.transform c.pass.name m.name fault)) := by
  induction left generalizing state g journal before with
  | zero => simp [history] at h
  | succ left ih =>
    rcases runFrom_cases passes left state g journal with ⟨hhist, -⟩ |
      ⟨front, d, m, last, hfront, hm, ⟨fault', hd, hhist, hrun⟩ | ⟨again, hd, hhist, hrun⟩⟩
    · simp [hhist] at h
    · rw [hhist, List.flatten_singleton] at h
      have hok : ∀ x ∈ front, ¬ x.effect.restart = .error fault := by
        intro x hx
        simp [hfront x hx]
      obtain ⟨rfl, rfl⟩ := eq_last_of_split hok hc h
      obtain rfl : fault' = fault := Except.error.inj (hd.symm.trans hc)
      exact ⟨rfl, m, last, hm, hrun⟩
    · rw [hhist, List.flatten_cons] at h
      have hok : ∀ x ∈ front ++ [d], ¬ x.effect.restart = .error fault := by
        intro x hx
        rcases List.mem_append.mp hx with hx | hx
        · simp [hfront x hx]
        · simp [List.mem_singleton.mp hx, hd]
      obtain ⟨between, hrest⟩ := exists_split_right hok hc h
      obtain ⟨hlater, k, last', hk, hend⟩ := ih last hrest
      exact ⟨hlater, k, last', hk, hrun.trans hend⟩

/-- **A run gives up if and only if it took all its sweeps**, each with a transform and none with a
fault. -/
theorem notConverged_iff {left : Nat} {journal : Journal} {name : String} :
    (runFrom passes false left ⟨state, g, journal⟩).2 = .error (.notConverged name) ↔
      (runFrom passes false left ⟨state, g, journal⟩).1.graph.name = name ∧
      (history passes left state g).length = left ∧
      ∀ made ∈ history passes left state g,
        made ≠ [] ∧ ∀ c ∈ made, c.effect.restart.isOk = true := by
  induction left generalizing state g journal with
  | zero => simp [runFrom, history]
  | succ left ih =>
    rcases runFrom_cases passes left state g journal with ⟨hhist, ⟨last, hrun⟩, -⟩ |
      ⟨front, c, m, last, hfront, -, ⟨fault, hc, hhist, hrun⟩ | ⟨again, hc, hhist, hrun⟩⟩
    · simp [hrun, hhist]
    · simp [hrun, hhist, hc]
    · have hmade : front ++ [c] ≠ [] ∧ ∀ d ∈ front ++ [c], d.effect.restart.isOk = true := by
        refine ⟨by simp, fun d hd => ?_⟩
        rcases List.mem_append.mp hd with hd | hd
        · rw [hfront d hd]
          rfl
        · rw [List.mem_singleton.mp hd, hc]
          rfl
      rw [hhist, hrun, List.length_cons, List.forall_mem_cons, Nat.add_right_cancel_iff,
        and_iff_right hmade]
      exact ih

theorem getElem?_history_zero (left : Nat) (state : σ) (g : Graph) :
    (history passes (left + 1) state g)[0]? = some (calls (steps passes g) state g) := by
  rw [history]
  split
  · rfl
  · split <;> rfl

/-- **A sweep ends at a call that asks to start over, and the next one starts anew**, if the run may
take one more. -/
theorem next_of_restart {left k : Nat} (journal : Journal) {before later : List (Call σ)}
    {c : Call σ} (h : (history passes left state g)[k]? = some (before ++ c :: later))
    (hc : c.effect.restart = .ok true) :
    later = [] ∧ (k + 1 = left ∧ (runFrom passes false left ⟨state, g, journal⟩).2 =
          .error (.notConverged (runFrom passes false left ⟨state, g, journal⟩).1.graph.name) ∨
      (history passes left state g)[k + 1]? =
        some (calls (steps passes c.effect.graph) c.effect.state c.effect.graph)) := by
  induction left generalizing state g journal k with
  | zero => simp [history] at h
  | succ left ih =>
    rcases runFrom_cases passes left state g journal with
      ⟨hhist, -⟩ | ⟨front, d, m, last, hfront, -, hend⟩
    · rw [hhist] at h
      cases k <;> simp at h
    · have hok : ∀ x ∈ front, ¬ x.effect.restart = .ok true := by
        intro x hx
        simp [hfront x hx]
      rcases hend with ⟨fault, hd, hhist, -⟩ | ⟨again, hd, hhist, hrun⟩
      · rw [hhist] at h
        cases k with
        | zero =>
          obtain ⟨rfl, -⟩ := eq_last_of_split hok hc (Option.some.inj h)
          exact absurd (hd.symm.trans hc) (by simp)
        | succ k => simp at h
      · rw [hhist] at h ⊢
        cases k with
        | zero =>
          obtain ⟨rfl, hlater⟩ := eq_last_of_split hok hc (Option.some.inj h)
          refine ⟨hlater, ?_⟩
          cases left with
          | zero => exact .inl ⟨rfl, by rw [hrun]; rfl⟩
          | succ left => exact .inr (getElem?_history_zero left _ _)
        | succ k =>
          rw [hrun, Nat.add_right_cancel_iff]
          exact ih last h

/-- **A run stops only at a fixed point, at a fault, or after all its sweeps.** The history of the
run holds the calls that passes can see of it. If the run succeeds, no pass applies to a node that
is left. If a transform fails, it was the last to be called, and its fault is returned with the
names of the pass and of the node. The run gives up if and only if each of its sweeps had a
transform and none a fault. A transform that asks to start over ends its sweep, and the next sweep,
if there may be one, begins at the first node and the first pass. -/
theorem run_stops_at_fixed_point (passes : List (Pass σ)) (state : σ) (g : Graph) :
    let after := (run passes false state g).1
    let result := (run passes false state g).2
    let sweeps := history passes maxSweeps state g
    run (passes.map recording) false (state, []) g = (after.recorded sweeps.flatten, result) ∧
    (result = .ok () → ∀ n ∈ after.graph.nodes, ∀ p ∈ passes, p.applies after.state n = false) ∧
    (∀ before c later fault, sweeps.flatten = before ++ c :: later →
      c.effect.restart = .error fault →
        later = [] ∧ after.state = c.effect.state ∧ after.graph = c.effect.graph ∧
        ∃ n, c.node? = some n ∧ result = .error (.transform c.pass.name n.name fault)) ∧
    (∀ name, result = .error (.notConverged name) ↔ after.graph.name = name ∧
      sweeps.length = maxSweeps ∧
      ∀ made ∈ sweeps, made ≠ [] ∧ ∀ c ∈ made, c.effect.restart.isOk = true) ∧
    ∀ k before c later, sweeps[k]? = some (before ++ c :: later) → c.effect.restart = .ok true →
      later = [] ∧
      (k + 1 = maxSweeps ∧ result = .error (.notConverged after.graph.name) ∨
        ∃ next, sweeps[k + 1]? = some next ∧
          next = calls (steps passes c.effect.graph) c.effect.state c.effect.graph ∧
          next.head? = ((steps passes c.effect.graph).find? fun e =>
              e.2.matchesAt c.effect.state c.effect.graph e.1).map fun e =>
            ⟨e.2, e.1, c.effect.state, c.effect.graph⟩) := by
  intro after result sweeps
  refine ⟨run_recording passes state g, applies_eq_false_of_ok, ?_, fun _ => notConverged_iff, ?_⟩
  · intro before c later fault h hc
    obtain ⟨hlater, n, last, hn, hrun⟩ := ends_of_error {} h hc
    have hafter : after = c.after last := congrArg Prod.fst hrun
    rw [hafter]
    exact ⟨hlater, rfl, rfl, n, hn, congrArg Prod.snd hrun⟩
  · intro k before c later h hc
    obtain ⟨hlater, hlimit | hnext⟩ := next_of_restart {} h hc
    · exact ⟨hlater, .inl hlimit⟩
    · exact ⟨hlater, .inr ⟨_, hnext, rfl, head?_calls _ _ _⟩⟩

/-- A pass that counts down to zero. It asks to start over at even numbers and fails at thirteen. -/
def countdown : Pass Nat where
  name := "countdown"
  applies left _ := left != 0
  transform left g _ :=
    { state := left - 1
      graph := g
      restart := if left = 13 then .error (.failed "no room") else .ok (left % 2 == 0) }

/-- A graph of two dense layers. -/
def twoLayers : Graph :=
  ⟨"net", [("fc", Graph.denseLayer "latency"),
    ("fc2", { Graph.denseLayer "latency" with name := "fc2", index := 2 })]⟩

/-- The call of the pass at a place, with a number. -/
def counted (place left : Nat) : Call Nat := ⟨countdown, place, left, twoLayers⟩

/-- From three, the second call asks to start over, and the third sweep finds nothing to do. From
fourteen, the second call fails. From a thousand, the sweeps do not suffice. -/
theorem run_stops_at_fixed_point_countdown :
    (history [countdown] maxSweeps 3 twoLayers = [[counted 0 3, counted 1 2], [counted 0 1], []] ∧
      (run [countdown] false 3 twoLayers).2 = .ok () ∧
      (∀ n ∈ (run [countdown] false 3 twoLayers).1.graph.nodes,
        countdown.applies (run [countdown] false 3 twoLayers).1.state n = false) ∧
      ∃ next, (history [countdown] maxSweeps 3 twoLayers)[1]? = some next ∧
        next.head? = some (counted 0 1)) ∧
    (run [countdown] false 14 twoLayers).2 =
      .error (.transform "countdown" "fc" (.failed "no room")) ∧
    (run [countdown] false 1000 twoLayers).2 = .error (.notConverged "net") ∧
    ∀ made ∈ history [countdown] maxSweeps 1000 twoLayers, made ≠ [] := by
  obtain ⟨-, hfixed, -, -, hagain⟩ := run_stops_at_fixed_point [countdown] 3 twoLayers
  obtain ⟨-, -, hfail, -, -⟩ := run_stops_at_fixed_point [countdown] 14 twoLayers
  obtain ⟨-, -, -, hlimit, -⟩ := run_stops_at_fixed_point [countdown] 1000 twoLayers
  have hok : (run [countdown] false 3 twoLayers).2 = .ok () := rfl
  have hhist : history [countdown] maxSweeps 3 twoLayers =
      [[counted 0 3, counted 1 2], [counted 0 1], []] := rfl
  have hmany : (run [countdown] false 1000 twoLayers).2 = .error (.notConverged "net") := rfl
  refine ⟨⟨hhist, hok, fun n hn => hfixed hok n hn countdown List.mem_cons_self, ?_⟩, ?_, hmany, ?_⟩
  · obtain ⟨-, ⟨hk, -⟩ | ⟨next, hnext, -, hhead⟩⟩ := hagain 0 [counted 0 3] (counted 1 2) [] rfl rfl
    · exact absurd hk (by decide)
    · exact ⟨next, hnext, hhead⟩
  · obtain ⟨-, -, -, n, hn, hresult⟩ :=
      hfail [counted 0 14] (counted 0 13) [] (.failed "no room") rfl rfl
    obtain rfl := Option.some.inj hn
    exact hresult
  · exact fun made hmade => (((hlimit "net").mp hmany).2.2 made hmade).1

end LayerCode.Pass
