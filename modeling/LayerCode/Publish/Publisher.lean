import LayerCode.Journal
import LayerCode.Publish.Breaker

/-!
# Publishing manifests

A publisher hands manifests over to a data set, guarded by a circuit breaker. How a manifest gets
there, and what form it has, is up to a transport, which may keep a state and may fail.

* `Transport`: hands a manifest over to a data set;
* `Publisher`, `Publisher.publishDuring`: hands a manifest over unless the breaker is open;
* `Publisher.publish`: the same while the clock stands still.
-/

namespace LayerCode

/-- Hands a manifest over to a data set; the text of its failure, if there is one. -/
abbrev Transport (τ ρ : Type) := τ → String → ρ → τ × Option String

/-- A data set with the breaker that guards it. -/
structure Publisher where
  dataset : String
  breaker : Breaker
deriving DecidableEq, Repr

namespace Publisher

/-- Why a manifest was not published. -/
inductive Fault where
  | circuitOpen (dataset : String)
  | failed (dataset text : String)
deriving DecidableEq, Repr

/-- The text of a fault. -/
def Fault.message : Fault → String
  | .circuitOpen dataset => "publish to " ++ dataset ++ ": circuit breaker open"
  | .failed dataset text => "publish to " ++ dataset ++ ": " ++ text

/-- What publishing a manifest came to. -/
structure Outcome (τ : Type) where
  publisher : Publisher
  transport : τ
  events : List LogEvent := []
  fault : Option Fault := none

/-- Hands a manifest over unless the breaker is open. The clock reads `asked` when the breaker is
asked, and `told` when it is told of a failure. -/
def publishDuring {τ ρ : Type} (put : Transport τ ρ) (asked told : Int) (p : Publisher) (state : τ)
    (r : ρ) : Outcome τ :=
  match p.breaker.allow asked with
  | (breaker, false) =>
    { publisher := { p with breaker := breaker }, transport := state
      fault := some (.circuitOpen p.dataset) }
  | (breaker, true) =>
    match put state p.dataset r with
    | (state, none) => { publisher := { p with breaker := breaker.success }, transport := state }
    | (state, some text) =>
      let breaker := breaker.failure told
      { publisher := { p with breaker := breaker }, transport := state
        events := [.manifestFailed text p.dataset breaker.state.name]
        fault := some (.failed p.dataset text) }

/-- Hands a manifest over unless the breaker is open, while the clock stands still. -/
def publish {τ ρ : Type} (put : Transport τ ρ) (now : Int) (p : Publisher) (state : τ) (r : ρ) :
    Outcome τ :=
  p.publishDuring put now now state r

end Publisher

end LayerCode
