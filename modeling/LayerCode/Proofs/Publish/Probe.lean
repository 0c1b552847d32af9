import Mathlib.Data.List.Basic
import Mathlib.Data.Fintype.EquivFin
import LayerCode.Proofs.Outcome
import LayerCode.Publish.Publisher

/-!
# Probes of a shared breaker

Publishes that share a breaker take their steps in any order. Each asks the breaker once and, if it
is let through, reports once that it succeeded or failed. One that is let through while the breaker
is not closed is a probe. The breaker is told what was reported, but not by whom, so the report of a
publish that was let through earlier counts as that of a probe.

* `Action`, `Flight`, `Traffic`: steps of publishes, and how far the publishes have come;
* `Traffic.run_publish`: a publish that is not interrupted takes these steps;
* `Traffic.step?_cases`: what a step can do;
* `Single.run`: **while no publish fails beside a probe, there is one unfinished probe at most**;
* `Alone.step`, `exists_second_probe`: what can happen after a probe was let through, if it is the
  only unfinished publish and if it is not;
* `Traffic.single_probe_exactly`.
-/

namespace LayerCode

/-- A step of one of the publishes that share a breaker, with the reading of the clock where it
takes one. -/
inductive Action where
  /-- The publish asks whether it may go ahead. -/
  | ask (publish : Nat) (now : Int)
  | succeed (publish : Nat)
  | fail (publish : Nat) (now : Int)
deriving DecidableEq

/-- A publish that was let through and has not reported. -/
structure Flight where
  publish : Nat
  /-- It was let through while the breaker was not closed. -/
  probe : Bool
deriving DecidableEq

/-- How far the publishes that share a breaker have come. -/
structure Traffic where
  breaker : Breaker
  /-- The last reading of the clock. -/
  clock : Int
  asked : List Nat := []
  unfinished : List Flight := []
deriving DecidableEq

namespace Traffic

/-- Nobody has asked a new breaker yet. -/
def start (maxFailures cooldown : Int64) (now : Int) : Traffic where
  breaker := .new maxFailures cooldown
  clock := now

/-- The probes that have not reported. -/
def probes (s : Traffic) : List Flight := s.unfinished.filter Flight.probe

/-- The publish was let through and has not reported. -/
def isUnfinished (s : Traffic) (p : Nat) : Bool := s.unfinished.any (·.publish == p)

/-- A publish has asked, with the answer of the breaker. -/
def answer (s : Traffic) (p : Nat) (now : Int) : Breaker × Bool → Traffic
  | (b, true) =>
    { breaker := b, clock := now, asked := p :: s.asked
      unfinished := ⟨p, s.breaker.state != .closed⟩ :: s.unfinished }
  | (b, false) => { s with breaker := b, clock := now, asked := p :: s.asked }

/-- A publish has reported. -/
def finish (s : Traffic) (p : Nat) (now : Int) (b : Breaker) : Traffic :=
  { s with breaker := b, clock := now, unfinished := s.unfinished.filter (·.publish != p) }

/-- One step, if it can be taken: a publish asks once, reports once and only after it was let
through, and the clock does not go back. -/
def step? (s : Traffic) : Action → Option Traffic
  | .ask p now =>
    if s.asked.contains p || now < s.clock then none
    else some (s.answer p now (s.breaker.allow now))
  | .succeed p => if s.isUnfinished p then some (s.finish p s.clock s.breaker.success) else none
  | .fail p now =>
    if s.isUnfinished p && s.clock ≤ now then some (s.finish p now (s.breaker.failure now))
    else none

/-- Steps, one after another. -/
def run? (s : Traffic) (actions : List Action) : Option Traffic := actions.foldlM step? s

@[simp]
theorem run?_nil (s : Traffic) : s.run? [] = some s := rfl

theorem run?_cons (s : Traffic) (a : Action) (as : List Action) :
    s.run? (a :: as) = (s.step? a).bind (·.run? as) := rfl

/-! ## One publish -/

/-- **A publish that is not interrupted asks, and reports once if it was let through.** -/
theorem run_publish {τ ρ : Type} (put : Transport τ ρ) (now : Int) (publisher : Publisher)
    (state : τ) (r : ρ) {s : Traffic} (hs : s.breaker = publisher.breaker) {p : Nat}
    (hp : p ∉ s.asked) (hu : ∀ f ∈ s.unfinished, f.publish ≠ p) (hnow : s.clock ≤ now) :
    ∃ report, (report = [] ∨ report = [.succeed p] ∨ report = [.fail p now]) ∧
      s.run? (.ask p now :: report) =
        some { breaker := (publisher.publish put now state r).publisher.breaker, clock := now
               asked := p :: s.asked, unfinished := s.unfinished } := by
  have hask : s.step? (.ask p now) = some (s.answer p now (publisher.breaker.allow now)) := by
    rw [step?, hs, if_neg (by simp [hp, hnow])]
  have hfinish : s.unfinished.filter (·.publish != p) = s.unfinished := by
    simpa using hu
  unfold Publisher.publish Publisher.publishDuring
  split
  · next b hallow =>
    rw [hallow] at hask
    exact ⟨[], .inl rfl, by simp [run?_cons, hask, answer]⟩
  · next b hallow =>
    rw [hallow] at hask
    split
    · refine ⟨[.succeed p], .inr (.inl rfl), ?_⟩
      rw [run?_cons, hask, Option.bind_some]
      simp [run?_cons, step?, answer, isUnfinished, finish, hfinish]
    · refine ⟨[.fail p now], .inr (.inr rfl), ?_⟩
      rw [run?_cons, hask, Option.bind_some]
      simp [run?_cons, step?, answer, isUnfinished, finish, hfinish]

/-! ## One step -/

/-- What a step can do, whatever the clock says. -/
inductive Step (s : Traffic) : Action → Traffic → Prop where
  /-- The breaker is closed, and the publish goes ahead. -/
  | pass {p : Nat} {now : Int} : p ∉ s.asked → s.breaker.state = .closed →
      Step s (.ask p now)
        { s with clock := now, asked := p :: s.asked, unfinished := ⟨p, false⟩ :: s.unfinished }
  /-- The breaker is open and the cool-down has passed, and the publish goes ahead as a probe. -/
  | probe {p : Nat} {now : Int} : p ∉ s.asked → s.breaker.state = .opened →
      Step s (.ask p now)
        { breaker := { s.breaker with state := .halfOpen }, clock := now, asked := p :: s.asked
          unfinished := ⟨p, true⟩ :: s.unfinished }
  | refuse {p : Nat} {now : Int} : p ∉ s.asked → s.breaker.state ≠ .closed →
      Step s (.ask p now) { s with clock := now, asked := p :: s.asked }
  | succeed {p : Nat} : s.isUnfinished p = true →
      Step s (.succeed p) (s.finish p s.clock s.breaker.success)
  | fail {p : Nat} {now : Int} : s.isUnfinished p = true →
      Step s (.fail p now) (s.finish p now (s.breaker.failure now))

variable {s s' : Traffic} {a : Action} {p : Nat} {now : Int}

theorem step?_cases (h : s.step? a = some s') : Step s a s' := by
  cases a with
  | ask p now =>
    rw [step?] at h
    split_ifs at h with hc
    have hp : p ∉ s.asked := by
      intro hmem
      simp [hmem] at hc
    obtain rfl := Option.some.inj h
    unfold Breaker.allow
    split
    · next hs =>
      have hpass : Step s (.ask p now) _ := .pass hp hs
      have hprobe : (s.breaker.state != .closed) = false := by rw [hs]; rfl
      simpa only [answer, hprobe] using hpass
    · next hs =>
      split_ifs
      · exact .refuse hp (by simp [hs])
      · have hstep : Step s (.ask p now) _ := .probe hp hs
        have hprobe : (s.breaker.state != .closed) = true := by rw [hs]; rfl
        simpa only [answer, hprobe] using hstep
    · next hs => exact .refuse hp (by simp [hs])
  | succeed p =>
    rw [step?] at h
    split_ifs at h with hu
    exact Option.some.inj h ▸ .succeed hu
  | fail p now =>
    rw [step?] at h
    split_ifs at h with hu
    exact Option.some.inj h ▸ .fail (Bool.and_eq_true_iff.mp hu).1

theorem isUnfinished_iff : s.isUnfinished p = true ↔ ∃ f ∈ s.unfinished, f.publish = p := by
  simp [isUnfinished]

theorem mem_probes_iff {f : Flight} : f ∈ s.probes ↔ f ∈ s.unfinished ∧ f.probe = true := by
  simp [probes]

@[simp]
theorem isUnfinished_finish (s : Traffic) (p q : Nat) (now : Int) (b : Breaker) :
    (s.finish p now b).isUnfinished q = (s.isUnfinished q && q != p) := by
  rw [Bool.eq_iff_iff, Bool.and_eq_true_iff, isUnfinished_iff, isUnfinished_iff]
  constructor
  · rintro ⟨f, hf, rfl⟩
    have hmem : f ∈ s.unfinished ∧ (f.publish != p) = true := List.mem_filter.mp hf
    exact ⟨⟨f, hmem.1, rfl⟩, hmem.2⟩
  · rintro ⟨⟨f, hf, rfl⟩, hne⟩
    exact ⟨f, List.mem_filter.mpr ⟨hf, hne⟩, rfl⟩

/-- A publish that has asked is not let through again. -/
theorem Step.isUnfinished (h : Step s a s') (hp : p ∈ s.asked) (hu : s'.isUnfinished p = true) :
    s.isUnfinished p = true := by
  cases h with
  | pass hq _ | probe hq _ =>
    rw [isUnfinished_iff] at hu ⊢
    obtain ⟨f, hf, rfl⟩ := hu
    rcases List.mem_cons.mp hf with rfl | hf
    · exact absurd hp hq
    · exact ⟨f, hf, rfl⟩
  | refuse _ _ => exact hu
  | succeed _ | fail _ =>
    rw [isUnfinished_finish, Bool.and_eq_true_iff] at hu
    exact hu.1

theorem Step.asked_subset (h : Step s a s') : s.asked ⊆ s'.asked := by
  cases h with
  | pass _ _ | probe _ _ | refuse _ _ => exact List.subset_cons_self _ _
  | succeed _ | fail _ => exact List.Subset.refl _

/-- What every step keeps holds after a run. -/
theorem run?_invariant {P : Traffic → Prop} (hP : ∀ {s a s'}, P s → Step s a s' → P s')
    {as : List Action} (hs : P s) (hr : s.run? as = some s') : P s' := by
  induction as generalizing s with
  | nil =>
    obtain rfl := Option.some.inj hr
    exact hs
  | cons a as ih =>
    rw [run?_cons, Option.bind_eq_some_iff] at hr
    obtain ⟨s₁, hstep, hrest⟩ := hr
    exact ih (hP hs (step?_cases hstep)) hrest

/-- Who is unfinished has asked. -/
theorem mem_asked_of_run? {maxFailures cooldown : Int64} {as : List Action}
    (hr : (start maxFailures cooldown now).run? as = some s) :
    ∀ f ∈ s.unfinished, f.publish ∈ s.asked := by
  refine run?_invariant (P := fun s => ∀ f ∈ s.unfinished, f.publish ∈ s.asked) ?_ ?_ hr
  · intro s a s' h hstep
    cases hstep with
    | pass _ _ | probe _ _ =>
      intro f hf
      rcases List.mem_cons.mp hf with rfl | hf
      · exact List.mem_cons_self
      · exact List.mem_cons_of_mem _ (h f hf)
    | refuse _ _ => exact fun f hf => List.mem_cons_of_mem _ (h f hf)
    | succeed _ | fail _ => exact fun f hf => h f (List.mem_of_mem_filter hf)
  · intro f hf
    exact absurd hf List.not_mem_nil

/-! ## A single probe, if only probes fail meanwhile -/

/-- The step is not a failure while another publish is an unfinished probe. -/
def inTurn (s : Traffic) : Action → Bool
  | .fail p _ => s.probes.all (·.publish == p)
  | _ => true

/-- No publish fails while another one is an unfinished probe. -/
def orderly (s : Traffic) : List Action → Bool
  | [] => true
  | a :: as => s.inTurn a && (s.step? a).all (·.orderly as)

/-- There is one unfinished probe at most, and none while the breaker is open. -/
structure Single (s : Traffic) : Prop where
  probes_le_one : s.probes.length ≤ 1
  not_opened : s.probes ≠ [] → s.breaker.state ≠ .opened

theorem single_start (maxFailures cooldown : Int64) (now : Int) :
    (start maxFailures cooldown now).Single :=
  ⟨Nat.zero_le 1, fun h => absurd rfl h⟩

theorem probes_finish (s : Traffic) (p : Nat) (now : Int) (b : Breaker) :
    (s.finish p now b).probes = s.probes.filter (·.publish != p) :=
  List.filter_comm ..

theorem Single.step (h : Single s) (ha : s.inTurn a = true) (hs : Step s a s') : Single s' := by
  cases hs with
  | pass _ _ | refuse _ _ => exact ⟨h.probes_le_one, h.not_opened⟩
  | probe _ hopen =>
    have hnone : s.unfinished.filter Flight.probe = [] := by
      by_contra hne
      exact h.not_opened hne hopen
    exact ⟨by simp [probes, hnone], fun _ => by simp⟩
  | succeed _ =>
    refine ⟨?_, fun _ => by simp [finish, Breaker.success]⟩
    rw [probes_finish]
    exact (List.length_filter_le _ _).trans h.probes_le_one
  | @fail p now _ =>
    -- the breaker may open now, but the only probe there can be is the publish that failed
    have hnone : (s.finish p now (s.breaker.failure now)).probes = [] := by
      rw [probes_finish]
      simpa [inTurn] using ha
    exact ⟨by simp [hnone], fun hne => absurd hnone hne⟩

/-- **At every moment of an orderly run there is one unfinished probe at most.** -/
theorem Single.run {as bs : List Action} (h : Single s) (ho : s.orderly (as ++ bs) = true)
    (hr : s.run? as = some s') : Single s' := by
  induction as generalizing s with
  | nil =>
    obtain rfl := Option.some.inj hr
    exact h
  | cons a as ih =>
    rw [run?_cons, Option.bind_eq_some_iff] at hr
    obtain ⟨s₁, hstep, hrest⟩ := hr
    rw [List.cons_append, orderly, Bool.and_eq_true_iff, hstep, Option.all_some] at ho
    exact ih (h.step ho.1 (step?_cases hstep)) ho.2 hrest

/-! ## A probe with and without company -/

/-- The publish has asked and, until it reports, is a probe and the only unfinished publish. -/
structure Alone (p : Nat) (s : Traffic) : Prop where
  asked : p ∈ s.asked
  unfinished : s.isUnfinished p = true → s.unfinished = [⟨p, true⟩]
  halfOpen : s.isUnfinished p = true → s.breaker.state = .halfOpen

/-- **While a probe is the only unfinished publish, nobody can join it.** -/
theorem Alone.step (h : Alone p s) (hs : Step s a s') : Alone p s' := by
  have hasked : p ∈ s'.asked := hs.asked_subset h.asked
  by_cases hu : s'.isUnfinished p = true
  · have hu₀ : s.isUnfinished p = true := hs.isUnfinished h.asked hu
    have hhalf := h.halfOpen hu₀
    cases hs with
    | pass _ hstate => simp [hhalf] at hstate
    | probe _ hstate => simp [hhalf] at hstate
    | refuse _ _ => exact ⟨hasked, fun _ => h.unfinished hu₀, fun _ => hhalf⟩
    | @succeed q hq | @fail q now hq =>
      -- only the probe itself can report, and then it is finished
      have hqp : p = q := by
        rw [isUnfinished_iff, h.unfinished hu₀] at hq
        simpa using hq
      simp [hqp] at hu
  · exact ⟨hasked, fun h => absurd h hu, fun h => absurd h hu⟩

/-- Somebody who asks a breaker long after it opened is a probe. -/
theorem exists_probe (hs : s.breaker.state = .opened) (hc : s.breaker.openedAt = s.clock) :
    ∃ q now s', s.step? (.ask q now) = some s' ∧ s'.unfinished = ⟨q, true⟩ :: s.unfinished := by
  obtain ⟨q, hq⟩ := Infinite.exists_notMem_finset s.asked.toFinset
  -- no cool-down is longer than the longest time span
  have hspan : Breaker.timeSpan s.breaker.openedAt (s.clock + 0x8000000000000000) =
      0x7fffffffffffffff := by
    unfold Breaker.timeSpan
    rw [if_neg (by omega), if_pos (by omega)]
  have hcool : s.breaker.cooldown.toInt ≤ 0x7fffffffffffffff := s.breaker.cooldown.toInt_le
  have hallow : s.breaker.allow (s.clock + 0x8000000000000000) =
      ({ s.breaker with state := .halfOpen }, true) := by
    rw [Breaker.allow, hs]
    simp only [hspan]
    rw [if_neg (by omega)]
  have hfresh : ¬ (s.asked.contains q || s.clock + 0x8000000000000000 < s.clock) = true := by
    rw [List.mem_toFinset] at hq
    simp only [Bool.or_eq_true, List.contains_iff_mem, hq, decide_eq_true_eq, false_or]
    omega
  refine ⟨q, _, s.answer q _ _, by rw [step?, if_neg hfresh, hallow], ?_⟩
  simp [answer, hs]

/-- **A publish that is unfinished beside a probe can fail, and after the cool-down there is a
second probe.** -/
theorem exists_second_probe {f : Flight} (hs : s.breaker.state = .halfOpen)
    (hp : ⟨p, true⟩ ∈ s.unfinished) (hf : f ∈ s.unfinished) (hne : f.publish ≠ p) :
    ∃ more s₂, s.run? more = some s₂ ∧ s₂.isUnfinished p = true ∧ 2 ≤ s₂.probes.length := by
  let s₁ := s.finish f.publish s.clock (s.breaker.failure s.clock)
  have hfail : s.step? (.fail f.publish s.clock) = some s₁ := by
    have hu : s.isUnfinished f.publish = true := isUnfinished_iff.mpr ⟨f, hf, rfl⟩
    simp [step?, hu, s₁]
  have hopen : s₁.breaker.state = .opened ∧ s₁.breaker.openedAt = s₁.clock := by
    simp [s₁, finish, Breaker.failure, hs]
  obtain ⟨q, now, s₂, hask, hs₂⟩ := exists_probe hopen.1 hopen.2
  have hmem : ⟨p, true⟩ ∈ s₁.probes := by
    rw [probes_finish, List.mem_filter, mem_probes_iff]
    simpa [hp] using hne.symm
  refine ⟨[.fail f.publish s.clock, .ask q now], s₂, by simp [run?_cons, hfail, hask], ?_, ?_⟩
  · rw [isUnfinished_iff, hs₂]
    exact ⟨⟨p, true⟩, List.mem_cons_of_mem _ (mem_probes_iff.mp hmem).1, rfl⟩
  · have hprobes : s₂.probes = ⟨q, true⟩ :: s₁.probes := by simp [probes, hs₂]
    rw [hprobes, List.length_cons]
    exact Nat.succ_le_succ (List.length_pos_of_mem hmem)

/-- **A probe stays the only one for as long as it is unfinished if and only if nobody else was
unfinished when it was let through.** -/
theorem probe_stays_single_iff {maxFailures cooldown : Int64} {earliest : Int} {as : List Action}
    (hr : (start maxFailures cooldown earliest).run? as = some s)
    (hstep : s.step? (.ask p now) = some s') (hp : ⟨p, true⟩ ∈ s'.unfinished) :
    (∀ more s₂, s'.run? more = some s₂ → s₂.isUnfinished p = true → s₂.probes = [⟨p, true⟩]) ↔
      s.unfinished = [] := by
  have hasked := mem_asked_of_run? hr
  cases step?_cases hstep with
  | pass hfresh _ =>
    rcases List.mem_cons.mp hp with heq | hmem
    · simp at heq
    · exact absurd (hasked _ hmem) hfresh
  | refuse hfresh _ => exact absurd (hasked _ hp) hfresh
  | probe hfresh _ =>
    constructor
    · intro hsingle
      by_contra hne
      obtain ⟨f, hf⟩ := List.exists_mem_of_ne_nil _ hne
      have hfp : f.publish ≠ p := fun heq => hfresh (heq ▸ hasked f hf)
      obtain ⟨more, s₂, hrun, hu, htwo⟩ :=
        exists_second_probe rfl hp (List.mem_cons_of_mem _ hf) hfp
      simp [hsingle more s₂ hrun hu] at htwo
    · intro hnone more s₂ hrun hu
      have halone : Alone p s₂ :=
        run?_invariant Alone.step ⟨List.mem_cons_self, fun _ => by simp [hnone], fun _ => rfl⟩ hrun
      simp [probes, halone.unfinished hu]

/-- **Single probes.** At every moment of a run in which no publish fails while another one is an
unfinished probe, there is one unfinished probe at most. Whatever else may happen, a probe stays the
only one until it reports if and only if nobody was unfinished when it was let through. -/
theorem single_probe_exactly (maxFailures cooldown : Int64) (earliest : Int) :
    (∀ as bs s, (start maxFailures cooldown earliest).orderly (as ++ bs) = true →
      (start maxFailures cooldown earliest).run? as = some s → s.probes.length ≤ 1) ∧
    ∀ as s, (start maxFailures cooldown earliest).run? as = some s →
      ∀ p now s', s.step? (.ask p now) = some s' → ⟨p, true⟩ ∈ s'.unfinished →
        ((∀ more s₂, s'.run? more = some s₂ → s₂.isUnfinished p = true →
          s₂.probes = [⟨p, true⟩]) ↔ s.unfinished = []) := by
  constructor
  · intro as bs s ho hr
    exact ((single_start maxFailures cooldown earliest).run ho hr).probes_le_one
  · intro as s hr p now s' hstep hp
    exact probe_stays_single_iff hr hstep hp

/-- A failure, and after the cool-down a probe that fails in its turn. -/
theorem single_probe_exactly_failing :
    ∃ s₁ s₂, (start 1 1000 0).run? [.ask 0 0, .fail 0 0] = some s₁ ∧
      s₁.step? (.ask 1 1000) = some s₂ ∧
      (start 1 1000 0).orderly ([.ask 0 0, .fail 0 0, .ask 1 1000] ++ [.fail 1 1500]) = true ∧
      s₂.probes.length ≤ 1 ∧
      ∀ more s₃, s₂.run? more = some s₃ → s₃.isUnfinished 1 = true → s₃.probes = [⟨1, true⟩] := by
  obtain ⟨hsingle, hstays⟩ := single_probe_exactly 1 1000 0
  refine ⟨_, _, rfl, rfl, by decide, ?_, ?_⟩
  · exact hsingle [.ask 0 0, .fail 0 0, .ask 1 1000] [.fail 1 1500] _ (by decide) rfl
  · exact (hstays [.ask 0 0, .fail 0 0] _ rfl 1 1000 _ rfl (by decide)).mpr rfl

/-- A publish that was let through before the breaker opened fails beside a probe, and there are two
unfinished probes after the cool-down. -/
theorem two_probes_after_late_failure :
    ((start 1 1000 0).run?
      [.ask 0 0, .ask 1 0, .fail 0 0, .ask 2 1000, .fail 1 1000, .ask 3 2000]).map probes =
        some [⟨3, true⟩, ⟨2, true⟩] := by
  decide

end Traffic

end LayerCode
