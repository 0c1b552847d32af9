import LayerCode.Result
import LayerCode.Target

/-!
# Generating code for a graph

Every node is checked before the passes change any weights; then the passes run, and the text of
every node is generated. The headers of the graph are those of its nodes in the order in which they
first occur.

* `Compile.Fault`, `Compile.Kind`: why there is no code, and the kind of reason that is counted;
* `compile`: the code of a graph, the graph that the passes left, and the journal.
-/

namespace LayerCode

open Text

namespace Compile

/-- Why there is no code for a graph. -/
inductive Fault where
  | notSupported (graphName nodeName : String) (fault : Target.NotSupported)
  | passes (graphName : String) (fault : Pass.Fault)
  | render (graphName nodeName : String) (fault : Registry.Fault)
deriving DecidableEq, Repr

/-- The text of a fault. -/
def Fault.message : Fault → String
  | .notSupported graphName nodeName fault =>
    "graph " ++ quoted graphName ++ ": node " ++ quoted nodeName ++ ": " ++ fault.message
  | .passes graphName fault => "graph " ++ quoted graphName ++ ": " ++ fault.message
  | .render graphName nodeName fault =>
    "graph " ++ quoted graphName ++ ": node " ++ quoted nodeName ++ ": " ++ fault.message

/-- The kinds of faults that are counted apart. -/
inductive Kind where
  | notSupported
  | unexpectedLayer
  | missingTemplate
  | canceled
  | other
deriving DecidableEq, Repr

/-- The name of a kind. -/
def Kind.name : Kind → String
  | .notSupported => "not_supported"
  | .unexpectedLayer => "unexpected_layer"
  | .missingTemplate => "missing_template"
  | .canceled => "canceled"
  | .other => "other"

/-- The kind of a fault. -/
def Fault.kind : Fault → Kind
  | .notSupported .. => .notSupported
  | .passes _ .canceled => .canceled
  | .passes _ (.transform _ _ (.noRule _)) => .unexpectedLayer
  | .passes _ (.transform _ _ (.missingWeight ..)) => .unexpectedLayer
  | .passes .. => .other
  | .render .. => .missingTemplate

/-- What generating code came to. -/
structure Outcome where
  graph : Graph
  journal : Journal
  result : Except Fault Result

/-- A node with the channel order of its kernel, if the target has it. -/
def checkNode (t : Target) (graph : String) (n : Node) : Except Fault ChannelOrder :=
  (t.validate n).mapError (.notSupported graph n.name)

/-- The code of a node. -/
def renderNode (t : Target) (graph : String) (n : Node) (order : ChannelOrder) :
    Except Fault Artifact := do
  let config ← (t.registry.config n).mapError (.render graph n.name)
  let call ← (t.registry.call n order.tag).mapError (.render graph n.name)
  pure ⟨n.name, n.variant.name, config, call, some n.variant.headers⟩

/-- The code of a graph whose nodes have their channel orders. -/
def renderAll (t : Target) (g : Graph) (orders : List ChannelOrder) : Except Fault Result := do
  let artifacts ← (g.nodes.zip orders).mapM fun (n, order) => renderNode t g.name n order
  pure ⟨g.name, t.name, some artifacts, some (firstSeen (artifacts.flatMap Artifact.headers))⟩

/-- What is reported of the code of a graph. -/
def report (t : Target) (g : Graph) (r : Result) : Journal where
  events := [.compiled r.graph r.backend r.parts.length r.headers.length]
  counts := g.nodes.map fun n => .nodesRendered t.name n.variant

/-- The code of a graph, before durations and failures are counted. -/
def generate (t : Target) (canceled : Bool) (g : Graph) : Outcome :=
  match g.nodes.mapM (checkNode t g.name) with
  | .error fault => ⟨g, {}, .error fault⟩
  | .ok orders =>
    match Pass.run t.passes canceled () g with
    | (after, .error fault) => ⟨after.graph, after.journal, .error (.passes g.name fault)⟩
    | (after, .ok ()) =>
      match renderAll t after.graph orders with
      | .error fault => ⟨after.graph, after.journal, .error fault⟩
      | .ok r => ⟨after.graph, after.journal ++ report t after.graph r, .ok r⟩

/-- What is counted of every attempt. -/
def attempt (t : Target) : Except Fault Result → Journal
  | .ok _ => .count (.compileDuration t.name)
  | .error fault => ⟨[], [.renderFailures t.name fault.kind.name, .compileDuration t.name]⟩

end Compile

/-- The code of a graph for a target, with the graph that the passes left. -/
def compile (t : Target) (canceled : Bool) (g : Graph) : Compile.Outcome :=
  let o := Compile.generate t canceled g
  { o with journal := o.journal ++ Compile.attempt t o.result }

end LayerCode
