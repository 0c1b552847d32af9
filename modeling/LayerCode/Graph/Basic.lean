import LayerCode.Graph.Node

/-!
# Graphs

A graph is a list of nodes with distinct names. Each node is listed under the name it had when the
graph was built, and is found under that name also after it was renamed.

* `Graph`, `Graph.make`;
* `Graph.nodes`, `Graph.node?`, `Graph.find?`: the nodes, by place and by name;
* `Graph.setNode`: the graph with another node at a place.
-/

namespace LayerCode

open Text

/-- A named list of nodes, each under the name it had when the graph was built. -/
structure Graph where
  name : String
  entries : List (String × Node)
deriving DecidableEq, Repr

namespace Graph

/-- A node with the name of an earlier one. -/
structure Fault where
  graph : String
  node : String
deriving DecidableEq, Repr

/-- The text of a refusal. -/
def Fault.message (f : Fault) : String :=
  "graph " ++ quoted f.graph ++ ": duplicate node " ++ quoted f.node

/-- The graph of nodes with distinct names. -/
def make (name : String) (nodes : List Node) : Except Fault Graph :=
  match firstRepeated [] (nodes.map Node.name) with
  | some n => .error ⟨name, n⟩
  | none => .ok ⟨name, nodes.map fun n => (n.name, n)⟩

/-- The nodes in order. -/
def nodes (g : Graph) : List Node := g.entries.map Prod.snd

/-- The number of nodes. -/
def size (g : Graph) : Nat := g.entries.length

/-- The node at a place. -/
def node? (g : Graph) (i : Nat) : Option Node := (g.entries[i]?).map Prod.snd

/-- The place of the node that is listed under a name. -/
def position? (g : Graph) (name : String) : Option Nat :=
  g.entries.findIdx? fun e => e.1 == name

/-- The node that is listed under a name. -/
def find? (g : Graph) (name : String) : Option Node := g.entries.lookup name

/-- The graph with another node at a place, listed under the same name as before. -/
def setNode (g : Graph) (i : Nat) (n : Node) : Graph :=
  { g with entries := g.entries.modify i fun e => (e.1, n) }

/-- The graph with every node changed by a function. -/
def mapNodes (f : Node → Node) (g : Graph) : Graph :=
  { g with entries := g.entries.map fun e => (e.1, f e.2) }

end Graph

end LayerCode
