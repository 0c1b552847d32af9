import Mathlib.Algebra.GroupWithZero.Nat
import LayerCode.Proofs.Compile.NodeByNode

/-!
# What generating code counts

Every transform of a pass is timed, and counted unless it fails. A transform that fails ends the run
of its pass, so the two numbers differ by the runs that ended in this way. Generating code counts
its nodes if it succeeds, and a failure if not, and is timed in either case.

* `Counter.isTransform`, `Counter.isFailure`: counters that differ in one label;
* `Counter.origin`, `Counter.AllFrom`: what a counter is raised by;
* `Pass.failedPass?`: the pass whose transform ended a run;
* `Pass.Accounted`, **`Pass.sweep_counted`**, **`Pass.run_accounted`**: what sweeps and runs count;
* `Compile.Call`, **`Compile.Call.exists_counts`**: what generating code counts.
-/

namespace LayerCode

open Text Outcome

@[simp] theorem Journal.counts_append (a b : Journal) :
    (a ++ b).counts = a.counts ++ b.counts := rfl

namespace Counter

/-- A counter of the transforms of a pass, for any variant. -/
def isTransform (pass : String) : Counter → Bool
  | .passTransforms name _ => name == pass
  | _ => false

/-- A counter of the failures to generate code for a target, of any kind. -/
def isFailure (backend : String) : Counter → Bool
  | .renderFailures name _ => name == backend
  | _ => false

/-- What counters are raised by: the passes, the nodes that code was generated for, the attempt to
generate it, and requests. -/
inductive Origin where
  | passes
  | nodes
  | attempt
  | requests
deriving DecidableEq

/-- What the counter is raised by. -/
def origin : Counter → Origin
  | .passDuration _ | .passTransforms .. => .passes
  | .nodesRendered .. => .nodes
  | .compileDuration _ | .renderFailures .. => .attempt
  | .cacheHits | .cacheMisses | .requests _ | .requestDuration => .requests

theorem origin_of_isTransform {pass : String} {c : Counter} (h : c.isTransform pass = true) :
    c.origin = .passes := by
  cases c with
  | passTransforms => rfl
  | _ => exact absurd h Bool.false_ne_true

theorem origin_of_isFailure {backend : String} {c : Counter} (h : c.isFailure backend = true) :
    c.origin = .attempt := by
  cases c with
  | renderFailures => rfl
  | _ => exact absurd h Bool.false_ne_true

/-- All counters are raised by the same. -/
def AllFrom (x : Origin) (counts : List Counter) : Prop := ∀ c ∈ counts, c.origin = x

theorem AllFrom.countP_eq_zero {x y : Origin} {counts : List Counter} (h : AllFrom x counts)
    {p : Counter → Bool} (hp : ∀ c, p c = true → c.origin = y) (hxy : x ≠ y) :
    counts.countP p = 0 :=
  List.countP_eq_zero.mpr fun c hc hpc => hxy ((h c hc).symm.trans (hp c hpc))

theorem AllFrom.count_eq_zero {x : Origin} {counts : List Counter} (h : AllFrom x counts)
    {c : Counter} (hc : c.origin ≠ x) : counts.count c = 0 :=
  List.count_eq_zero.mpr fun hmem => hc (h c hmem)

end Counter

/-! ## Passes -/

namespace Pass

variable {σ α : Type}

/-- The pass whose transform failed, if that is the fault. -/
def Fault.pass? : Fault → Option String
  | .transform pass _ _ => some pass
  | _ => none

/-- The pass whose transform ended a run by its failure, if that is how the run ended. -/
def failedPass? : Except Fault α → Option String
  | .error fault => fault.pass?
  | .ok _ => none

/-- The counters are those of passes. All transforms were timed, and those that did not fail were
counted. -/
structure Accounted (counts : List Counter) (failed? : Option String) : Prop where
  only : Counter.AllFrom .passes counts
  timed : ∀ pass, counts.count (.passDuration pass) =
    counts.countP (Counter.isTransform pass) + if failed? = some pass then 1 else 0

theorem accounted_nil : Accounted [] none where
  only := by simp [Counter.AllFrom]
  timed := by simp

theorem Accounted.append {counts counts' : List Counter} {failed? : Option String}
    (h : Accounted counts none) (h' : Accounted counts' failed?) :
    Accounted (counts ++ counts') failed? where
  only c hc := by
    rcases List.mem_append.mp hc with hc | hc
    · exact h.only c hc
    · exact h'.only c hc
  timed pass := by
    have hcount := h.timed pass
    rw [if_neg (by simp)] at hcount
    rw [List.count_append, List.countP_append, hcount, h'.timed pass]
    omega

/-- What was counted from one point of a run to another one. -/
def Progress.Counted (cur after : Progress σ) (failed? : Option String) : Prop :=
  ∃ made, after.journal.counts = cur.journal.counts ++ made ∧ Accounted made failed?

variable {cur after last : Progress σ} {failed? : Option String}

theorem Progress.Counted.refl (cur : Progress σ) : cur.Counted cur none :=
  ⟨[], by simp, accounted_nil⟩

theorem Progress.Counted.trans (h : cur.Counted after none) (h' : after.Counted last failed?) :
    cur.Counted last failed? := by
  obtain ⟨made, hmade, hfirst⟩ := h
  obtain ⟨later, hlater, hrest⟩ := h'
  exact ⟨made ++ later, by rw [hlater, hmade, List.append_assoc], hfirst.append hrest⟩

theorem applyAt_counted {p : Pass σ} {i : Nat} {n : Node} {end? : Except Fault Bool}
    (h : applyAt p i n cur = (after, end?)) : cur.Counted after (failedPass? end?) := by
  unfold applyAt at h
  dsimp only at h
  cases hr : (p.transform cur.state cur.graph i).restart with
  | error fault =>
    rw [hr] at h
    obtain ⟨rfl, rfl⟩ := Prod.mk.inj h
    refine ⟨[.passDuration p.name], rfl,
      ⟨by simp [Counter.AllFrom, Counter.origin], fun pass => ?_⟩⟩
    simp [failedPass?, Fault.pass?, Counter.isTransform, List.count_singleton]
  | ok again =>
    rw [hr] at h
    obtain ⟨rfl, rfl⟩ := Prod.mk.inj h
    refine ⟨[.passDuration p.name, .passTransforms p.name n.variant], List.append_assoc _ _ _,
      ⟨by simp [Counter.AllFrom, Counter.origin], fun pass => ?_⟩⟩
    simp [failedPass?, Counter.isTransform, List.count_cons, List.countP_cons]

/-- **What a sweep counts.** -/
theorem sweep_counted {rest : List (Nat × Pass σ)} {applied : Nat} {end? : Except Fault Nat}
    (h : sweep rest applied cur = (after, end?)) : cur.Counted after (failedPass? end?) := by
  fun_induction sweep rest applied cur with
  | case1 applied cur =>
    obtain ⟨rfl, rfl⟩ := Prod.mk.inj h
    exact .refl cur
  | case2 i p rest applied cur hn ih => exact ih h
  | case3 i p rest applied cur n hn happ last fault hstep =>
    obtain ⟨rfl, rfl⟩ := Prod.mk.inj h
    exact applyAt_counted hstep
  | case4 i p rest applied cur n hn happ last hstep =>
    obtain ⟨rfl, rfl⟩ := Prod.mk.inj h
    exact applyAt_counted hstep
  | case5 i p rest applied cur n hn happ next hstep ih => exact (applyAt_counted hstep).trans (ih h)
  | case6 i p rest applied cur n hn happ ih => exact ih h

theorem runFrom_counted {passes : List (Pass σ)} {canceled : Bool} {left : Nat}
    {end? : Except Fault Unit} (h : runFrom passes canceled left cur = (after, end?)) :
    cur.Counted after (failedPass? end?) := by
  fun_induction runFrom passes canceled left cur with
  | case1 cur =>
    obtain ⟨rfl, rfl⟩ := Prod.mk.inj h
    exact .refl cur
  | case2 left cur hcanceled =>
    obtain ⟨rfl, rfl⟩ := Prod.mk.inj h
    exact .refl cur
  | case3 left cur hgoing last fault hsweep =>
    obtain ⟨rfl, rfl⟩ := Prod.mk.inj h
    exact sweep_counted hsweep
  | case4 left cur hgoing last hsweep =>
    obtain ⟨rfl, rfl⟩ := Prod.mk.inj h
    -- A fixed point is logged, but not counted.
    obtain ⟨made, hmade, hall⟩ := sweep_counted hsweep
    exact ⟨made, (List.append_nil _).trans hmade, hall⟩
  | case5 left cur hgoing next count hsweep ih => exact (sweep_counted hsweep).trans (ih h)

/-- **What a run counts.** -/
theorem run_accounted {passes : List (Pass σ)} {canceled : Bool} {state : σ} {g : Graph}
    {end? : Except Fault Unit} (h : run passes canceled state g = (after, end?)) :
    Accounted after.journal.counts (failedPass? end?) := by
  obtain ⟨made, hmade, haccounted⟩ := runFrom_counted h
  rw [hmade]
  exact haccounted

end Pass

/-! ## Graphs -/

theorem Resource.map_variant_of_run {canceled : Bool} {g : Graph} {after : Pass.Progress Unit}
    (h : Pass.run [pass] canceled () g = (after, .ok ())) :
    after.graph.nodes.map Node.variant = g.nodes.map Node.variant := by
  obtain rfl := Pass.not_canceled_of_run h
  obtain ⟨journal, hrun⟩ := run_eq_settleAll () g
  obtain ⟨rfl, hend⟩ := Prod.mk.inj (hrun.symm.trans h)
  have hsettled := settleAll_eq_ok_iff.mp (Prod.ext rfl hend : settleAll g.entries = (_, .ok ()))
  have hvariants : List.Forall₂ (· = ·) ((settleAll g.entries).1.map fun e => e.2.variant)
      (g.entries.map fun e => e.2.variant) := by
    rw [List.forall₂_map_left_iff, List.forall₂_map_right_iff]
    refine hsettled.flip.imp fun f e hf => ?_
    rw [settle_rest hf.2]
  rw [List.forall₂_eq_eq_eq] at hvariants
  rw [Graph.nodes, Graph.nodes, List.map_map, List.map_map]
  exact hvariants

namespace Compile

/-- A call for the code of a graph. -/
structure Call where
  target : Target
  graph : Graph
  canceled : Bool

namespace Call

variable (c : Call)

/-- What the call comes to. -/
def outcome : Outcome := compile c.target c.canceled c.graph

/-- The call is for the target with a name. -/
def isFor (backend : String) : Bool := c.target.name == backend

/-- There is code for the graph. -/
def succeeds : Bool := c.outcome.result.isOk

/-- The number of nodes of a variant. -/
def nodesOf (v : Variant) : Nat := c.graph.nodes.countP fun n => n.variant == v

/-- How the run of the passes ends, if the target has kernels for all nodes. -/
def passEnd? : Option (Except Pass.Fault Unit) :=
  (c.graph.nodes.mapM (checkNode c.target c.graph.name)).toOption.map fun _ =>
    (Pass.run c.target.passes c.canceled () c.graph).2

/-- What is counted of the nodes. -/
def rendered : List Counter :=
  match c.outcome.result with
  | .ok _ => c.graph.nodes.map fun n => .nodesRendered c.target.name n.variant
  | .error _ => []

/-- What is counted of the attempt. -/
def attempted : List Counter := (attempt c.target c.outcome.result).counts

/-- **What a call counts**: what the passes do; every node, if there is code for them all; and the
attempt. -/
theorem exists_counts : ∃ made, Pass.Accounted made (c.passEnd?.bind Pass.failedPass?) ∧
    c.outcome.journal.counts = made ++ (c.rendered ++ c.attempted) := by
  unfold rendered attempted passEnd? outcome compile generate
  cases c.graph.nodes.mapM (checkNode c.target c.graph.name) with
  | error fault => exact ⟨[], Pass.accounted_nil, rfl⟩
  | ok orders =>
    rcases hrun : Pass.run c.target.passes c.canceled () c.graph with ⟨after, fault | ⟨⟩⟩
    · exact ⟨_, Pass.run_accounted hrun, rfl⟩
    · refine ⟨_, Pass.run_accounted hrun, ?_⟩
      dsimp only
      cases hrender : renderAll c.target after.graph orders with
      | error fault => rfl
      | ok r =>
        -- The nodes are counted after the passes, which leave the variants as they were.
        have hsame := congrArg (List.map (Counter.nodesRendered c.target.name))
          (Resource.map_variant_of_run hrun)
        rw [List.map_map, List.map_map] at hsame
        exact (congrArg (after.journal.counts ++ · ++ _) hsame).trans (List.append_assoc _ _ _)

theorem allFrom_rendered : Counter.AllFrom .nodes c.rendered := by
  unfold rendered
  cases c.outcome.result <;> simp [Counter.AllFrom, Counter.origin]

theorem allFrom_attempted : Counter.AllFrom .attempt c.attempted := by
  unfold attempted
  cases c.outcome.result <;> simp [attempt, Journal.count, Counter.AllFrom, Counter.origin]

/-- A call raises no counter of requests. -/
theorem count_of_requests {x : Counter} (hx : x.origin = .requests) :
    c.outcome.journal.counts.count x = 0 := by
  obtain ⟨made, hmade, hcounts⟩ := c.exists_counts
  rw [hcounts, List.count_append, List.count_append, hmade.only.count_eq_zero (by simp [hx]),
    c.allFrom_rendered.count_eq_zero (by simp [hx]),
    c.allFrom_attempted.count_eq_zero (by simp [hx])]

theorem countP_of_attempt {p : Counter → Bool} (hp : ∀ x, p x = true → x.origin = .attempt) :
    c.outcome.journal.counts.countP p = c.attempted.countP p := by
  obtain ⟨made, hmade, hcounts⟩ := c.exists_counts
  rw [hcounts, List.countP_append, List.countP_append,
    hmade.only.countP_eq_zero hp (by decide), c.allFrom_rendered.countP_eq_zero hp (by decide),
    Nat.zero_add, Nat.zero_add]

theorem count_compileDuration (backend : String) :
    c.outcome.journal.counts.count (.compileDuration backend) =
      if c.isFor backend then 1 else 0 := by
  have horigin : ∀ x : Counter, (x == .compileDuration backend) = true → x.origin = .attempt :=
    fun x hx => beq_iff_eq.mp hx ▸ rfl
  rw [List.count, c.countP_of_attempt horigin, attempted]
  cases c.outcome.result <;> simp [attempt, Journal.count, isFor, List.countP_cons]

theorem countP_isFailure (backend : String) :
    c.outcome.journal.counts.countP (Counter.isFailure backend) =
      if c.isFor backend && !c.succeeds then 1 else 0 := by
  rw [countP_of_attempt c fun _ => Counter.origin_of_isFailure, attempted, succeeds]
  cases c.outcome.result <;>
    simp [attempt, Journal.count, Counter.isFailure, isFor, List.countP_cons]

theorem count_nodesRendered (backend : String) (v : Variant) :
    c.outcome.journal.counts.count (.nodesRendered backend v) =
      if c.isFor backend && c.succeeds then c.nodesOf v else 0 := by
  obtain ⟨made, hmade, hcounts⟩ := c.exists_counts
  rw [hcounts, List.count_append, List.count_append,
    hmade.only.count_eq_zero (by simp [Counter.origin]),
    c.allFrom_attempted.count_eq_zero (by simp [Counter.origin]), Nat.zero_add, Nat.add_zero,
    rendered, succeeds, isFor]
  cases c.outcome.result with
  | error fault => simp
  | ok r =>
    rw [List.count, List.countP_map, nodesOf]
    by_cases hb : c.target.name = backend
    · simp only [hb, beq_self_eq_true, isOk_ok, Bool.and_self, if_true]
      exact List.countP_congr fun n _ => by simp
    · simp [hb, Function.comp_def]

theorem count_passDuration (pass : String) :
    c.outcome.journal.counts.count (.passDuration pass) =
      c.outcome.journal.counts.countP (Counter.isTransform pass) +
        if c.passEnd?.bind Pass.failedPass? = some pass then 1 else 0 := by
  obtain ⟨made, hmade, hcounts⟩ := c.exists_counts
  rw [hcounts, List.count_append, List.count_append,
    c.allFrom_rendered.count_eq_zero (by simp [Counter.origin]),
    c.allFrom_attempted.count_eq_zero (by simp [Counter.origin]),
    List.countP_append, List.countP_append,
    c.allFrom_rendered.countP_eq_zero (fun _ => Counter.origin_of_isTransform) (by decide),
    c.allFrom_attempted.countP_eq_zero (fun _ => Counter.origin_of_isTransform) (by decide)]
  exact hmade.timed pass

end Call

end Compile

end LayerCode
