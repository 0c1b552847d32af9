import LayerCode.Proofs.Publish.Breaker
import LayerCode.Publish.Publisher

/-!
# Publishing in sequence

Manifests that are published one after the other through one publisher. The breaker is told of every
hand-over before the next publish asks it, so it is never left half open, and what it answers
depends on the hand-overs alone: how many failed since the last one that succeeded, and when the
last failure was told. Readings of the clock are arbitrary, and the clock may move during a publish.

* `Attempt`, `Attempted`, `inSequence`: publishes one after the other, with what each of them came
  to;
* `Transport.noted`: a transport that notes what its hand-overs come to;
* `Breaker.Settled`: a breaker between two publishes, by the history of hand-overs. The failures are
  not bounded: the breaker counts them only while it is closed;
* `attempted_cases`, **`settled_attempted`**, `exists_attempted`: one publish, and many of them;
* **`Publisher.publishing_in_sequence`**.
-/

namespace LayerCode

namespace Breaker

/-- Between two publishes a breaker is closed, with the failures in a row counted, as long as they
are fewer than it takes, and then open since the last of them was told. -/
structure Settled (M c : Int64) (es : List Event) (b : Breaker) : Prop where
  limit : b.maxFailures = M
  wait : b.cooldown = c
  few : (failuresInRow es : Int) < max 1 M.toInt →
    b.state = .closed ∧ b.failures.toInt = failuresInRow es
  many : max 1 M.toInt ≤ failuresInRow es →
    b.state = .opened ∧ lastFailure? es = some b.openedAt

theorem settled_new (M c : Int64) : Settled M c [] (new M c) where
  limit := rfl
  wait := rfl
  few _ := ⟨rfl, rfl⟩
  many h := by
    have hzero : failuresInRow [] = 0 := rfl
    omega

theorem allow_of_refused {b : Breaker} {now : Int} (h : (b.allow now).2 = false) :
    (b.allow now).1 = b := by
  cases hs : b.state with
  | closed => simp [allow, hs] at h
  | opened =>
    rw [allow, hs] at h ⊢
    dsimp only at h ⊢
    split_ifs at h ⊢
    rfl
  | halfOpen => simp [allow, hs]

theorem allow_limits (b : Breaker) (now : Int) :
    (b.allow now).1.maxFailures = b.maxFailures ∧ (b.allow now).1.cooldown = b.cooldown := by
  unfold allow
  split
  · exact ⟨rfl, rfl⟩
  · split_ifs <;> exact ⟨rfl, rfl⟩
  · exact ⟨rfl, rfl⟩

variable {M c : Int64} {es : List Event} {b : Breaker} {now told : Int}

theorem Settled.closed_or_opened (h : Settled M c es b) :
    b.state = .closed ∨ b.state = .opened := by
  rcases lt_or_ge (failuresInRow es : Int) (max 1 M.toInt) with hlt | hge
  · exact .inl (h.few hlt).1
  · exact .inr (h.many hge).1

/-- **A call is let through** if there were few failures in a row, or the cool-down has passed since
the last one was told. -/
theorem Settled.allow_iff (h : Settled M c es b) :
    (b.allow now).2 = true ↔ (failuresInRow es : Int) < max 1 M.toInt ∨
      ∃ since, lastFailure? es = some since ∧ c.toInt ≤ timeSpan since now := by
  rcases lt_or_ge (failuresInRow es : Int) (max 1 M.toInt) with hlt | hge
  · simp [allow, (h.few hlt).1, hlt]
  · obtain ⟨hopen, hlast⟩ := h.many hge
    have hanswer : (b.allow now).2 = true ↔ c.toInt ≤ timeSpan b.openedAt now := by
      rw [allow, hopen, h.wait]
      dsimp only
      split_ifs with hspan
      · simp [not_le.mpr hspan]
      · simp [not_lt.mp hspan]
    rw [hanswer, hlast]
    simp [not_lt.mpr hge]

theorem Settled.succeeded (h : Settled M c es b) :
    Settled M c (es ++ [.succeeded]) (b.allow now).1.success where
  limit := (allow_limits b now).1.trans h.limit
  wait := (allow_limits b now).2.trans h.wait
  few _ := ⟨rfl, by simp [success]⟩
  many hmany := by
    rw [failuresInRow_succeeded] at hmany
    omega

/-- A failure that is told while there are few: the breaker counts it, and opens if it is the last
that it takes. -/
theorem Settled.failed_few (h : Settled M c es b) (hlt : (failuresInRow es : Int) < max 1 M.toInt) :
    Settled M c (es ++ [.failed told]) (b.failure told) := by
  obtain ⟨hclosed, hcount⟩ := h.few hlt
  have hM : M.toInt ≤ 0x7fffffffffffffff := M.toInt_le
  have hone : (b.failures + 1).toInt = (failuresInRow es + 1 : Nat) :=
    toInt_add_one hcount (by omega)
  have hle : b.maxFailures ≤ b.failures + 1 ↔ M.toInt ≤ failuresInRow es + 1 := by
    rw [h.limit, Int64.le_iff_toInt_le, hone]
    simp
  simp only [failure]
  split_ifs with hopen
  · simp only [hclosed, reduceCtorEq, false_or, hle] at hopen
    refine ⟨h.limit, h.wait, fun hfew => ?_, fun _ => ⟨rfl, by simp⟩⟩
    rw [failuresInRow_failed] at hfew
    omega
  · simp only [hclosed, reduceCtorEq, false_or, hle] at hopen
    refine ⟨h.limit, h.wait, fun _ => ⟨hclosed, by simpa using hone⟩, fun hmany => ?_⟩
    rw [failuresInRow_failed] at hmany
    omega

/-- A failure that is told of a probe: the breaker opens again, whatever its count is. -/
theorem Settled.failed_many (h : Settled M c es b) (hge : max 1 M.toInt ≤ failuresInRow es)
    (hallow : (b.allow now).2 = true) :
    Settled M c (es ++ [.failed told]) ((b.allow now).1.failure told) := by
  have hprobe : (b.allow now).1 = { b with state := .halfOpen } := by
    rw [allow, (h.many hge).1] at hallow ⊢
    dsimp only at hallow ⊢
    split_ifs at hallow ⊢
    rfl
  have hfailure : (b.allow now).1.failure told =
      { b with state := .opened, failures := b.failures + 1, openedAt := told } := by
    rw [hprobe, failure]
    simp
  rw [hfailure]
  refine ⟨h.limit, h.wait, fun hfew => ?_, fun _ => ⟨rfl, by simp⟩⟩
  rw [failuresInRow_failed] at hfew
  omega

theorem Settled.failed (h : Settled M c es b) (hallow : (b.allow now).2 = true) :
    Settled M c (es ++ [.failed told]) ((b.allow now).1.failure told) := by
  rcases lt_or_ge (failuresInRow es : Int) (max 1 M.toInt) with hlt | hge
  · have hsame : (b.allow now).1 = b := by simp [allow, (h.few hlt).1]
    rw [hsame]
    exact h.failed_few hlt
  · exact h.failed_many hge hallow

end Breaker

/-! ## Publishes -/

/-- The transport, with a note of what its hand-overs come to. -/
def Transport.noted {τ ρ : Type} (put : Transport τ ρ) : Transport (τ × List (Option String)) ρ :=
  fun (state, calls) dataset r =>
    let (after, fault) := put state dataset r
    ((after, calls ++ [fault]), fault)

namespace Publisher

open Breaker

/-- A manifest to publish, with the reading of the clock when the breaker is asked and the one when
it is told of a failure. -/
structure Attempt (ρ : Type) where
  manifest : ρ
  asked : Int
  told : Int

/-- A publish that was made: what the hand-overs during it came to, what it reported, and the
breaker before and after it. -/
structure Attempted (ρ : Type) where
  attempt : Attempt ρ
  calls : List (Option String)
  fault : Option Fault
  before : Breaker
  after : Breaker

/-- What the breaker was told by the hand-overs of a publish. -/
def Attempted.events {ρ : Type} (a : Attempted ρ) : List Event :=
  a.calls.map fun
    | none => .succeeded
    | some _ => .failed a.attempt.told

/-- What the breaker was told by the hand-overs of publishes, the earliest first. -/
def history {ρ : Type} (past : List (Attempted ρ)) : List Event := past.flatMap Attempted.events

variable {τ ρ : Type}

/-- One publish. -/
def outcome (put : Transport τ ρ) (p : Publisher) (state : τ) (a : Attempt ρ) : Outcome τ :=
  p.publishDuring put a.asked a.told state a.manifest

/-- What one publish came to. The hand-overs are those that the transport notes. -/
def attempted (put : Transport τ ρ) (p : Publisher) (state : τ) (a : Attempt ρ) : Attempted ρ where
  attempt := a
  calls := (outcome put.noted p (state, []) a).transport.2
  fault := (outcome put p state a).fault
  before := p.breaker
  after := (outcome put p state a).publisher.breaker

/-- What publishes one after the other came to. -/
def inSequence (put : Transport τ ρ) : Publisher → τ → List (Attempt ρ) → List (Attempted ρ)
  | _, _, [] => []
  | p, state, a :: as =>
    attempted put p state a ::
      inSequence put (outcome put p state a).publisher (outcome put p state a).transport as

section Attempts

variable {put : Transport τ ρ} {p : Publisher} {state : τ} {a : Attempt ρ}

theorem dataset_outcome : (outcome put p state a).publisher.dataset = p.dataset := by
  unfold outcome publishDuring
  split
  · rfl
  · split <;> rfl

/-- **What a publish can come to.** It is refused, or there is one hand-over, which succeeds or
fails, and the breaker is told. -/
theorem attempted_cases (put : Transport τ ρ) (p : Publisher) (state : τ) (a : Attempt ρ) :
    ((p.breaker.allow a.asked).2 = false ∧ attempted put p state a =
      ⟨a, [], some (.circuitOpen p.dataset), p.breaker, p.breaker⟩) ∨
    ((p.breaker.allow a.asked).2 = true ∧ attempted put p state a =
      ⟨a, [none], none, p.breaker, (p.breaker.allow a.asked).1.success⟩) ∨
    (p.breaker.allow a.asked).2 = true ∧ ∃ text, attempted put p state a =
      ⟨a, [some text], some (.failed p.dataset text), p.breaker,
        (p.breaker.allow a.asked).1.failure a.told⟩ := by
  rcases hallow : p.breaker.allow a.asked with ⟨breaker, _ | _⟩
  · have hrefused : (p.breaker.allow a.asked).2 = false := by rw [hallow]
    have hsame : breaker = p.breaker := by simpa only [hallow] using allow_of_refused hrefused
    exact .inl ⟨rfl, by simp only [attempted, outcome, publishDuring, hallow, hsame]⟩
  · rcases hput : put state p.dataset a.manifest with ⟨after, _ | text⟩
    · exact .inr (.inl ⟨rfl, by
        simp [attempted, outcome, publishDuring, hallow, Transport.noted, hput]⟩)
    · exact .inr (.inr ⟨rfl, text, by
        simp [attempted, outcome, publishDuring, hallow, Transport.noted, hput]⟩)

/-- **A publish leaves a settled breaker settled.** -/
theorem settled_attempted {M c : Int64} {es : List Event} (h : Settled M c es p.breaker) :
    Settled M c (es ++ (attempted put p state a).events) (attempted put p state a).after := by
  rcases attempted_cases put p state a with ⟨-, heq⟩ | ⟨-, heq⟩ | ⟨hallow, text, heq⟩
  · rw [heq]
    simpa [Attempted.events] using h
  · rw [heq]
    exact h.succeeded
  · rw [heq]
    exact h.failed hallow

/-- Each of the publishes one after the other finds a settled breaker. -/
theorem exists_attempted {M c : Int64} {es : List Event} {as : List (Attempt ρ)}
    {past later : List (Attempted ρ)} {now : Attempted ρ}
    (h : inSequence put p state as = past ++ now :: later) (hs : Settled M c es p.breaker) :
    ∃ q s, q.dataset = p.dataset ∧ Settled M c (es ++ history past) q.breaker ∧
      now = attempted put q s now.attempt := by
  induction past generalizing p state es as with
  | nil =>
    cases as with
    | nil => exact absurd h (by simp [inSequence])
    | cons a as =>
      rw [inSequence, List.nil_append] at h
      obtain ⟨rfl, -⟩ := List.cons.inj h
      exact ⟨p, state, rfl, by simpa [history] using hs, rfl⟩
  | cons x past ih =>
    cases as with
    | nil => exact absurd h (by simp [inSequence])
    | cons a as =>
      rw [inSequence, List.cons_append] at h
      obtain ⟨rfl, hrest⟩ := List.cons.inj h
      obtain ⟨q, s, hq, hsettled, hnow⟩ := ih hrest (settled_attempted hs)
      refine ⟨q, s, hq.trans dataset_outcome, ?_, hnow⟩
      rwa [history, List.flatMap_cons, ← List.append_assoc]

end Attempts

/-- **Publishing in sequence.** Whatever the hand-overs come to and whatever the clock reads: after
each publish the breaker is closed or open. There is a hand-over, and only one, if and only if there
were few failures since the last success, or the cool-down has passed since the last failure was
told. The time that has passed is measured within the range of 64 bits, which makes no difference
unless it is out of that range and the cool-down is the least one. A publish without a hand-over
reports the open circuit and leaves the breaker as it was, and a publish reports no fault if and
only if its hand-over succeeded. -/
theorem publishing_in_sequence (put : Transport τ ρ) (dataset : String)
    (maxFailures cooldown : Int64) (state : τ) (attempts : List (Attempt ρ))
    (past later : List (Attempted ρ)) (now : Attempted ρ)
    (h : inSequence put ⟨dataset, .new maxFailures cooldown⟩ state attempts =
      past ++ now :: later) :
    (now.after.state = .closed ∨ now.after.state = .opened) ∧
    now.calls.length ≤ 1 ∧
    (now.calls ≠ [] ↔ (failuresInRow (history past) : Int) < max 1 maxFailures.toInt ∨
      ∃ since, lastFailure? (history past) = some since ∧
        cooldown.toInt ≤ timeSpan since now.attempt.asked) ∧
    ((∀ since, lastFailure? (history past) = some since →
        cooldown ≠ Int64.minValue ∨ Representable (now.attempt.asked - since)) →
      (now.calls ≠ [] ↔ (failuresInRow (history past) : Int) < max 1 maxFailures.toInt ∨
        ∃ since, lastFailure? (history past) = some since ∧
          cooldown.toInt ≤ now.attempt.asked - since)) ∧
    (now.calls = [] ↔ now.fault = some (.circuitOpen dataset)) ∧
    (now.calls = [] → now.after = now.before) ∧
    (now.fault = none ↔ now.calls = [none]) := by
  obtain ⟨q, s, hq, hsettled, hnow⟩ := exists_attempted h (settled_new maxFailures cooldown)
  rw [List.nil_append] at hsettled
  have hafter : Settled maxFailures cooldown (history past ++ now.events) now.after := by
    rw [hnow]
    exact settled_attempted hsettled
  have hcases := attempted_cases put q s now.attempt
  rw [← hnow, hq] at hcases
  have hcalls : (now.calls ≠ [] ↔ (q.breaker.allow now.attempt.asked).2 = true) ∧
      now.calls.length ≤ 1 ∧ (now.calls = [] ↔ now.fault = some (.circuitOpen dataset)) ∧
      (now.calls = [] → now.after = now.before) ∧ (now.fault = none ↔ now.calls = [none]) := by
    rcases hcases with ⟨hallow, heq⟩ | ⟨hallow, heq⟩ | ⟨hallow, text, heq⟩
    · have hcalls : now.calls = [] := congrArg Attempted.calls heq
      have hfault : now.fault = some (.circuitOpen dataset) := congrArg Attempted.fault heq
      have hsame : now.after = now.before :=
        (congrArg Attempted.after heq).trans (congrArg Attempted.before heq).symm
      simp [hcalls, hfault, hallow, hsame]
    · have hcalls : now.calls = [none] := congrArg Attempted.calls heq
      have hfault : now.fault = none := congrArg Attempted.fault heq
      simp [hcalls, hfault, hallow]
    · have hcalls : now.calls = [some text] := congrArg Attempted.calls heq
      have hfault : now.fault = some (.failed dataset text) := congrArg Attempted.fault heq
      simp [hcalls, hfault, hallow]
  obtain ⟨hallow, hone, hopen, hsame, hnone⟩ := hcalls
  have hmade := hallow.trans hsettled.allow_iff
  refine ⟨hafter.closed_or_opened, hone, hmade, fun hspan => ?_, hopen, hsame, hnone⟩
  refine hmade.trans (or_congr_right (exists_congr fun since => and_congr_right fun hsince => ?_))
  exact le_timeSpan_iff (hspan since hsince)

/-- A transport that fails as a script says, and succeeds when the script is over. -/
def scripted : Transport (List (Option String)) Nat
  | [], _, _ => ([], none)
  | outcome :: script, _, _ => (script, outcome)

/-- Two attempts, and two more just before and at the end of the cool-down after them. -/
def coolingDown : List (Attempt Nat) :=
  [⟨0, 0, 5⟩, ⟨1, 10, 50⟩, ⟨2, 149, 149⟩, ⟨3, 150, 155⟩]

/-- Two publishes that fail, the second one told late. -/
def failing : List (Attempted Nat) :=
  inSequence scripted ⟨"ds", .new 2 100⟩ [some "down", some "down"] (coolingDown.take 2)

def openedLate : Breaker where
  maxFailures := 2
  cooldown := 100
  state := .opened
  failures := 2
  openedAt := 50

def tooEarly : Attempted Nat :=
  ⟨⟨2, 149, 149⟩, [], some (.circuitOpen "ds"), openedLate, openedLate⟩

def inTime : Attempted Nat := ⟨⟨3, 150, 155⟩, [none], none, openedLate, openedLate.success⟩

theorem publishing_in_sequence_coolingDown :
    inSequence scripted ⟨"ds", .new 2 100⟩ [some "down", some "down"] coolingDown =
        failing ++ [tooEarly, inTime] ∧
      failuresInRow (history failing) = 2 ∧ lastFailure? (history failing) = some 50 ∧
      tooEarly.calls = [] ∧ tooEarly.fault = some (.circuitOpen "ds") ∧
      tooEarly.after = tooEarly.before ∧ inTime.calls ≠ [] := by
  have hfailures : failuresInRow (history failing) = 2 := rfl
  have hlast : lastFailure? (history failing) = some 50 := rfl
  obtain ⟨-, -, hcalls, -, hopen, hleft, -⟩ := publishing_in_sequence scripted "ds" 2 100
    [some "down", some "down"] coolingDown failing [inTime] tooEarly rfl
  obtain ⟨-, -, -, hinTime, -⟩ := publishing_in_sequence scripted "ds" 2 100
    [some "down", some "down"] coolingDown (failing ++ [tooEarly]) [] inTime rfl
  have hnone : tooEarly.calls = [] := by
    by_contra hne
    rcases hcalls.mp hne with hfew | ⟨since, hsince, hspan⟩
    · rw [hfailures] at hfew
      exact absurd hfew (by decide)
    · obtain rfl := Option.some.inj (hlast.symm.trans hsince)
      exact absurd hspan (by decide)
  exact ⟨rfl, hfailures, hlast, hnone, hopen.mp hnone, hleft hnone,
    (hinTime fun _ _ => .inl (by decide)).mpr (.inr ⟨50, rfl, by decide⟩)⟩

end Publisher

end LayerCode
