/-!
# Circuit breakers

A breaker stops calls after a number of failures in a row. After a cool-down it lets a single call
through as a probe, whose outcome closes it or opens it again. Times are nanoseconds of a clock, and
a time span is cut off at the range of 64 bits.

* `Breaker`, `Breaker.new`;
* `Breaker.allow`, `Breaker.success`, `Breaker.failure`.
-/

namespace LayerCode

/-- The positions of a breaker. -/
inductive BreakerState where
  | closed
  | opened
  | halfOpen
deriving DecidableEq, Repr

/-- The name of a position. -/
def BreakerState.name : BreakerState → String
  | .closed => "closed"
  | .opened => "open"
  | .halfOpen => "half-open"

/-- The name of the position with a number. -/
def BreakerState.nameOfCode (n : Int) : String :=
  if n = 0 then BreakerState.closed.name
  else if n = 1 then BreakerState.opened.name
  else if n = 2 then BreakerState.halfOpen.name
  else "unknown"

/-- Counts failures in a row and stops calls after too many. -/
structure Breaker where
  maxFailures : Int64
  cooldown : Int64
  state : BreakerState := .closed
  failures : Int64 := 0
  openedAt : Int := 0
deriving DecidableEq, Repr

namespace Breaker

/-- A closed breaker. -/
def new (maxFailures cooldown : Int64) : Breaker :=
  { maxFailures := maxFailures, cooldown := cooldown }

/-- The time from one reading of the clock to another, cut off at the range of 64 bits. -/
def timeSpan (since now : Int) : Int :=
  if now - since < -0x8000000000000000 then -0x8000000000000000
  else if 0x7fffffffffffffff < now - since then 0x7fffffffffffffff
  else now - since

/-- Whether a call may be made. An open breaker lets one through once the cool-down has passed, and
no other before that one is finished. -/
def allow (b : Breaker) (now : Int) : Breaker × Bool :=
  match b.state with
  | .closed => (b, true)
  | .opened =>
    if timeSpan b.openedAt now < b.cooldown.toInt then (b, false)
    else ({ b with state := .halfOpen }, true)
  | .halfOpen => (b, false)

/-- A call succeeded: the breaker is closed and starts counting anew. -/
def success (b : Breaker) : Breaker := { b with state := .closed, failures := 0 }

/-- A call failed: one failure more, and the breaker opens if it was the probe or one too many. -/
def failure (b : Breaker) (now : Int) : Breaker :=
  let failures := b.failures + 1
  if b.state = .halfOpen ∨ b.maxFailures ≤ failures then
    { b with state := .opened, failures := failures, openedAt := now }
  else { b with failures := failures }

end Breaker

end LayerCode
