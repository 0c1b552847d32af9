import LayerCode.Graph.Basic
import LayerCode.Journal
import LayerCode.Tensor.Reorder

/-!
# Passes

A pass changes the nodes that it applies to, one at a time, and may keep a state of its own. Passes
are run in sweeps: a sweep offers every node to every pass, in graph order. A transform may ask to
start over, which ends the sweep. Runs end at a sweep without a transform, at the first fault, or
after 64 sweeps.

* `Pass`, `Effect`: a pass, and what one of its transforms did;
* `sweep`: the transforms of one sweep;
* `run`: sweeps up to a fixed point.
-/

namespace LayerCode

open Text

/-- Why a transform failed. -/
inductive TransformFault where
  /-- The pass has no rule for the variant. -/
  | noRule (variant : Variant)
  | missingWeight (variant : Variant) (weight : String)
  | tensor (fault : Tensor.Fault)
  /-- A cause of the pass's own. -/
  | failed (text : String)
deriving DecidableEq, Repr

/-- The text of a fault. -/
def TransformFault.message : TransformFault → String
  | .noRule variant => "unexpected layer " ++ variant.name ++ " with resource strategy"
  | .missingWeight variant weight =>
    "unexpected layer " ++ variant.name ++ ": missing weight " ++ quoted weight
  | .tensor fault => fault.message
  | .failed text => text

/-- What a transform did: the state and the graph after it, the events it logged, and whether the
sweep has to start over. -/
structure Effect (σ : Type) where
  state : σ
  graph : Graph
  events : List LogEvent := []
  restart : Except TransformFault Bool

/-- A change of nodes, for passes with a state in `σ`. -/
structure Pass (σ : Type) where
  name : String
  /-- The pass applies to a node. -/
  applies : σ → Node → Bool
  /-- Changes the node at a place. -/
  transform : σ → Graph → Nat → Effect σ

namespace Pass

/-- Why a run ended before its fixed point. -/
inductive Fault where
  | canceled
  | transform (pass node : String) (fault : TransformFault)
  | notConverged (graph : String)
deriving DecidableEq, Repr

/-- How many sweeps a run may take. -/
def maxSweeps : Nat := 64

/-- The text of a fault. -/
def Fault.message : Fault → String
  | .canceled => "context canceled"
  | .transform pass node fault =>
    "pass " ++ pass ++ " on node " ++ quoted node ++ ": " ++ fault.message
  | .notConverged graph =>
    "graph " ++ quoted graph ++ ": passes did not converge after " ++ maxSweeps.repr ++ " sweeps"

/-- How far a run has come. -/
structure Progress (σ : Type) where
  state : σ
  graph : Graph
  journal : Journal := {}

variable {σ : Type}

/-- Lets a pass change the node at a place, and tells whether the sweep has to start over. -/
def applyAt (p : Pass σ) (i : Nat) (n : Node) (cur : Progress σ) :
    Progress σ × Except Fault Bool :=
  let e := p.transform cur.state cur.graph i
  let timed := cur.journal ++ ⟨e.events, [.passDuration p.name]⟩
  match e.restart with
  | .error fault =>
    (⟨e.state, e.graph, timed⟩,
      .error (.transform p.name (((e.graph.node? i).map Node.name).getD n.name) fault))
  | .ok restart =>
    (⟨e.state, e.graph, timed ++ .count (.passTransforms p.name n.variant)⟩, .ok restart)

/-- Offers nodes to passes, one pair of a place and a pass after the other, and counts the
transforms. -/
def sweep : List (Nat × Pass σ) → Nat → Progress σ → Progress σ × Except Fault Nat
  | [], applied, cur => (cur, .ok applied)
  | (i, p) :: steps, applied, cur =>
    match cur.graph.node? i with
    | none => sweep steps applied cur
    | some n =>
      if p.applies cur.state n then
        match applyAt p i n cur with
        | (after, .error fault) => (after, .error fault)
        | (after, .ok true) => (after, .ok (applied + 1))
        | (after, .ok false) => sweep steps (applied + 1) after
      else sweep steps applied cur

/-- Every place of a graph with every pass. -/
def steps (passes : List (Pass σ)) (g : Graph) : List (Nat × Pass σ) :=
  (List.range g.size).flatMap fun i => passes.map fun p => (i, p)

/-- Sweeps, at most `left` more of them. -/
def runFrom (passes : List (Pass σ)) (canceled : Bool) :
    Nat → Progress σ → Progress σ × Except Fault Unit
  | 0, cur => (cur, .error (.notConverged cur.graph.name))
  | left + 1, cur =>
    if canceled then (cur, .error .canceled)
    else match sweep (steps passes cur.graph) 0 cur with
      | (after, .error fault) => (after, .error fault)
      | (after, .ok 0) =>
        (⟨after.state, after.graph,
          after.journal ++ .event (.fixedPoint after.graph.name (maxSweeps - left))⟩, .ok ())
      | (after, .ok (_ + 1)) => runFrom passes canceled left after

/-- Applies passes to a graph up to a fixed point. -/
def run (passes : List (Pass σ)) (canceled : Bool) (state : σ) (g : Graph) :
    Progress σ × Except Fault Unit :=
  runFrom passes canceled maxSweeps ⟨state, g, {}⟩

end Pass

end LayerCode
