import Mathlib.Algebra.GroupWithZero.Nat
import Mathlib.Algebra.Order.Ring.Int
import Mathlib.Data.List.DropRight
import LayerCode.Publish.Breaker

/-!
# What the history of a breaker says about it

A breaker keeps four fields, but where it stands is settled by the calls it was given and the
answers it gave: how many failures there were since the last success, when the last failure was, and
whether a call was let through since then.

* `Call`, `Event`, `run`: calls, what each of them came to, and a run of calls;
* `failuresInRow`, `lastFailure?`, `probed`: what a history says;
* **`Follows.step`**, `run_follows`: a call, and any number of them, keep a breaker with its
  history;
* `Follows.allow_eq_true_iff`: the answer of a breaker that is not closed.
-/

namespace LayerCode.Breaker

/-! ## Runs -/

/-- A call, with the reading of the clock where the call takes one. -/
inductive Call where
  | allow (now : Int)
  | success
  | failure (now : Int)
deriving DecidableEq

/-- What a call came to. -/
inductive Event where
  | answered (allowed : Bool)
  | succeeded
  | failed (now : Int)
deriving DecidableEq

def Call.isFailure : Call → Bool
  | .failure _ => true
  | _ => false

def Event.failedAt? : Event → Option Int
  | .failed now => some now
  | _ => none

/-- The breaker after a call, and what the call came to. -/
def step (b : Breaker) : Call → Breaker × Event
  | .allow now => ((b.allow now).1, .answered (b.allow now).2)
  | .success => (b.success, .succeeded)
  | .failure now => (b.failure now, .failed now)

/-- The breaker after calls, and what they came to, the earliest first. -/
def run (b : Breaker) : List Call → Breaker × List Event
  | [] => (b, [])
  | call :: calls =>
    let after := (b.step call).1.run calls
    (after.1, (b.step call).2 :: after.2)

/-! ## Histories -/

/-- The failures since the last success, or since the start. -/
def failuresInRow (es : List Event) : Nat :=
  (es.rtakeWhile (· ≠ .succeeded)).countP fun e => e.failedAt?.isSome

/-- When the last failure was. -/
def lastFailure? (es : List Event) : Option Int := es.reverse.findSome? Event.failedAt?

/-- A call was let through since the last failure. -/
def probed (es : List Event) : Bool :=
  (es.rtakeWhile fun e => e.failedAt?.isNone).contains (.answered true)

section Histories

variable (es : List Event)

@[simp] theorem failuresInRow_answered (a : Bool) :
    failuresInRow (es ++ [.answered a]) = failuresInRow es := by
  simp [failuresInRow, Event.failedAt?]

@[simp] theorem failuresInRow_succeeded : failuresInRow (es ++ [.succeeded]) = 0 := by
  simp [failuresInRow]

@[simp] theorem failuresInRow_failed (now : Int) :
    failuresInRow (es ++ [.failed now]) = failuresInRow es + 1 := by
  simp [failuresInRow, Event.failedAt?]

@[simp] theorem lastFailure?_answered (a : Bool) :
    lastFailure? (es ++ [.answered a]) = lastFailure? es := by
  simp [lastFailure?, List.findSome?_cons, Event.failedAt?]

@[simp] theorem lastFailure?_failed (now : Int) :
    lastFailure? (es ++ [.failed now]) = some now := by
  simp [lastFailure?, List.findSome?_cons, Event.failedAt?]

@[simp] theorem probed_answered (a : Bool) :
    probed (es ++ [.answered a]) = (probed es || a) := by
  cases a <;> simp [probed, Event.failedAt?]

@[simp] theorem probed_failed (now : Int) : probed (es ++ [.failed now]) = false := by
  simp [probed, Event.failedAt?]

end Histories

/-! ## One call -/

/-- The fields of the breaker are what the history says. -/
structure Follows (M c : Int64) (es : List Event) (b : Breaker) : Prop where
  limit : b.maxFailures = M
  wait : b.cooldown = c
  count : b.failures.toInt = failuresInRow es
  closed : b.state = .closed ↔ (failuresInRow es : Int) < max 1 M.toInt
  stamp : b.state ≠ .closed → lastFailure? es = some b.openedAt
  probe : b.state ≠ .closed → (b.state = .halfOpen ↔ probed es = true)

variable {M c : Int64} {es : List Event} {b : Breaker}

theorem follows_new (M c : Int64) : Follows M c [] (new M c) where
  limit := rfl
  wait := rfl
  count := rfl
  closed := by
    have hlt : (0 : Int) < max 1 M.toInt := lt_max_of_lt_left Int.one_pos
    exact ⟨fun _ => hlt, fun _ => rfl⟩
  stamp h := absurd rfl h
  probe h := absurd rfl h

theorem toInt_add_one {n : Int64} {k : Nat} (hn : n.toInt = k) (hk : k + 1 < 2 ^ 63) :
    (n + 1).toInt = (k + 1 : Nat) := by
  have hone : (1 : Int64).toInt = 1 := rfl
  rw [Int64.toInt_add, hn, hone, Int.bmod_eq_of_le] <;> omega

theorem Follows.allow (h : Follows M c es b) (now : Int) :
    Follows M c (es ++ [.answered (b.allow now).2]) (b.allow now).1 := by
  obtain ⟨hM, hc, hfailures, hclosed, hstamp, hprobe⟩ := h
  unfold Breaker.allow
  split
  · next hs =>
    -- A closed breaker stays as it is, and nothing is said about its probe.
    exact ⟨hM, hc, by simpa using hfailures, by simpa using hclosed, fun hne => absurd hs hne,
      fun hne => absurd hs hne⟩
  · next hs =>
    have hne : b.state ≠ .closed := by simp [hs]
    have hmany := hne ∘ hclosed.mpr
    split_ifs
    · exact ⟨hM, hc, by simpa using hfailures, by simpa using hclosed,
        fun _ => by simpa using hstamp hne, fun _ => by simpa using hprobe hne⟩
    · refine ⟨hM, hc, by simpa using hfailures, ?_, fun _ => by simpa using hstamp hne, fun _ => ?_⟩
      · simpa using hmany
      · simp
  · next hs =>
    have hne : b.state ≠ .closed := by simp [hs]
    exact ⟨hM, hc, by simpa using hfailures, by simpa using hclosed,
      fun _ => by simpa using hstamp hne, fun _ => by simpa using hprobe hne⟩

theorem Follows.success (h : Follows M c es b) : Follows M c (es ++ [.succeeded]) b.success where
  limit := h.limit
  wait := h.wait
  count := by simp [Breaker.success]
  closed := by simp [Breaker.success]
  stamp hne := absurd rfl hne
  probe hne := absurd rfl hne

theorem Follows.failure (h : Follows M c es b) (hfew : failuresInRow es + 1 < 2 ^ 63) (now : Int) :
    Follows M c (es ++ [.failed now]) (b.failure now) := by
  obtain ⟨hM, hc, hfailures, hclosed, hstamp, hprobe⟩ := h
  have hcount := toInt_add_one hfailures hfew
  have hle : b.maxFailures ≤ b.failures + 1 ↔ M.toInt ≤ failuresInRow es + 1 := by
    rw [hM, Int64.le_iff_toInt_le, hcount]
    simp
  simp only [Breaker.failure]
  split_ifs with hopen
  · refine ⟨hM, hc, by simpa using hcount, ?_, fun _ => by simp, fun _ => by simp⟩
    -- One failure more is too many: it was the probe of an open breaker, or reached the limit.
    have hmany : ¬ (failuresInRow es + 1 : Int) < max 1 M.toInt := by
      rcases hopen with hs | hm
      · have hno : ¬ b.state = .closed := by simp [hs]
        rw [hclosed] at hno
        omega
      · have := hle.mp hm
        omega
    simpa using hmany
  · rw [not_or, hle] at hopen
    obtain ⟨hhalf, hlt⟩ := hopen
    have hs : b.state = .closed := by
      rw [hclosed]
      omega
    refine ⟨hM, hc, by simpa using hcount, ?_, fun hne => absurd hs hne, fun hne => absurd hs hne⟩
    have hfewer : (failuresInRow es + 1 : Int) < max 1 M.toInt := by omega
    simpa [hs] using hfewer

/-- **A call keeps a breaker with its history.** -/
theorem Follows.step (h : Follows M c es b) (call : Call)
    (hfew : failuresInRow es + [call].countP Call.isFailure < 2 ^ 63) :
    Follows M c (es ++ [(b.step call).2]) (b.step call).1 := by
  cases call with
  | allow now => exact h.allow now
  | success => exact h.success
  | failure now => exact h.failure hfew now

/-! ## Any number of calls -/

theorem failuresInRow_step_le (es : List Event) (b : Breaker) (call : Call) :
    failuresInRow (es ++ [(b.step call).2]) ≤ failuresInRow es + [call].countP Call.isFailure := by
  cases call with
  | allow now => simp [Breaker.step]
  | success => simp [Breaker.step]
  | failure now => simp [Breaker.step, Call.isFailure]

theorem Follows.run (h : Follows M c es b) (calls : List Call)
    (hfew : failuresInRow es + calls.countP Call.isFailure < 2 ^ 63) :
    Follows M c (es ++ (b.run calls).2) (b.run calls).1 := by
  induction calls generalizing es b with
  | nil => simpa [Breaker.run] using h
  | cons call calls ih =>
    have hsplit : (call :: calls).countP Call.isFailure =
        [call].countP Call.isFailure + calls.countP Call.isFailure := by
      rw [← List.countP_append, List.singleton_append]
    have hle := failuresInRow_step_le es b call
    have hrest := ih (h.step call (by omega)) (by omega)
    simpa [Breaker.run] using hrest

/-- A run from the start keeps a breaker with its history, if the failures can be counted. -/
theorem run_follows (M c : Int64) {calls : List Call}
    (hfew : calls.countP Call.isFailure < 2 ^ 63) :
    Follows M c ((new M c).run calls).2 ((new M c).run calls).1 := by
  have hzero : failuresInRow [] = 0 := rfl
  simpa using (follows_new M c).run calls (by omega)

/-! ## Answers -/

/-- The span of time is within the range of 64 bits. -/
def Representable (span : Int) : Prop := -0x8000000000000000 ≤ span ∧ span ≤ 0x7fffffffffffffff

theorem timeSpan_eq {since now : Int} (h : Representable (now - since)) :
    timeSpan since now = now - since := by
  unfold timeSpan
  unfold Representable at h
  split_ifs <;> omega

/-- A cool-down has passed by the measured time if it has by the readings, unless their difference
is out of range and the cool-down is the least one. -/
theorem le_timeSpan_iff {c : Int64} {since now : Int}
    (h : c ≠ Int64.minValue ∨ Representable (now - since)) :
    c.toInt ≤ timeSpan since now ↔ c.toInt ≤ now - since := by
  have hmax : c.toInt ≤ 0x7fffffffffffffff := c.toInt_le
  have hmin : -0x8000000000000000 ≤ c.toInt := c.le_toInt
  have hleast : c.toInt ≠ -0x8000000000000000 ∨ -0x8000000000000000 ≤ now - since :=
    h.imp (fun hc hmin => hc (Int64.toInt_inj.mp hmin)) And.left
  unfold timeSpan
  split_ifs <;> omega

/-- A breaker that is not closed lets a call through if it is the first since the last failure, and
the cool-down has passed. -/
theorem Follows.allow_eq_true_iff (h : Follows M c es b) (hne : b.state ≠ .closed) {now : Int}
    (hspan : Representable (now - b.openedAt)) :
    (b.allow now).2 = true ↔ probed es = false ∧ c.toInt ≤ now - b.openedAt := by
  have hprobe := h.probe hne
  unfold Breaker.allow
  rw [timeSpan_eq hspan, h.wait]
  cases hs : b.state with
  | closed => exact absurd hs hne
  | opened =>
    have hno : probed es = false := by simpa [hs] using hprobe
    by_cases hlt : now - b.openedAt < c.toInt
    · simp [hlt]
    · simp [hlt, hno, not_lt.mp hlt]
  | halfOpen =>
    have hyes : probed es = true := by simpa [hs] using hprobe
    simp [hyes]

/-- **A breaker is a function of its history.** It is closed as long as there were fewer failures
since the last success than it takes, and at least one is needed. When it is not closed, it is half
open if a call was let through since the last failure, and the next call is let through if none was
and the cool-down has passed since that failure. A closed breaker lets every call through. -/
theorem run_determined (maxFailures cooldown : Int64) (calls : List Call)
    (hfew : calls.countP Call.isFailure < 2 ^ 63) {b : Breaker} {es : List Event}
    (hrun : (new maxFailures cooldown).run calls = (b, es)) :
    (b.state = .closed ↔ (failuresInRow es : Int) < max 1 maxFailures.toInt) ∧
    (b.state = .closed → ∀ now, (b.allow now).2 = true) ∧
    (b.state ≠ .closed → ∃ since, lastFailure? es = some since ∧
      (b.state = .halfOpen ↔ probed es = true) ∧
      ∀ now, Representable (now - since) →
        ((b.allow now).2 = true ↔ probed es = false ∧ cooldown.toInt ≤ now - since)) := by
  have h : Follows maxFailures cooldown es b := by
    simpa only [hrun] using run_follows maxFailures cooldown hfew
  refine ⟨h.closed, fun hs now => ?_, fun hne => ?_⟩
  · simp [Breaker.allow, hs]
  · exact ⟨b.openedAt, h.stamp hne, h.probe hne, fun now hspan => h.allow_eq_true_iff hne hspan⟩

/-- Three failures, a probe that fails, and a call before the cool-down has passed again. -/
def reopeningCalls : List Call :=
  [.failure 0, .failure 0, .failure 0, .allow 2000000000, .failure 2000000000, .allow 2500000000]

def reopeningEvents : List Event :=
  [.failed 0, .failed 0, .failed 0, .answered true, .failed 2000000000, .answered false]

def reopened : Breaker where
  maxFailures := 3
  cooldown := 1000000000
  state := .opened
  failures := 4
  openedAt := 2000000000

/-- A probe that fails opens the breaker again, and the cool-down starts anew. -/
theorem run_determined_reopened :
    reopeningCalls.countP Call.isFailure < 2 ^ 63 ∧
      (new 3 1000000000).run reopeningCalls = (reopened, reopeningEvents) ∧
      failuresInRow reopeningEvents = 4 ∧ probed reopeningEvents = false ∧
      (reopened.allow 2900000000).2 = false ∧ (reopened.allow 3000000000).2 = true := by
  have hfew : reopeningCalls.countP Call.isFailure < 2 ^ 63 := by decide
  have hrun : (new 3 1000000000).run reopeningCalls = (reopened, reopeningEvents) := by decide
  have hlast : lastFailure? reopeningEvents = some 2000000000 := by decide
  have hno : probed reopeningEvents = false := by decide
  obtain ⟨-, -, hopen⟩ := run_determined 3 1000000000 reopeningCalls hfew hrun
  obtain ⟨since, hsince, -, hallow⟩ := hopen (by decide)
  obtain rfl := Option.some.inj (hlast.symm.trans hsince)
  refine ⟨hfew, hrun, by decide, hno, ?_, ?_⟩
  · rw [← Bool.not_eq_true, hallow 2900000000 ⟨by decide, by decide⟩]
    exact fun h => absurd h.2 (by decide)
  · exact (hallow 3000000000 ⟨by decide, by decide⟩).mpr ⟨hno, by decide⟩

end LayerCode.Breaker
