import LayerCode.Cbor.Write

/-!
# Generated code

* `Artifact`, `Result`: the generated code of a node, and of a whole graph;
* `Result.bytes`: the code of a graph as one data item.

A list may also be absent, which is written differently from an empty one; generating code always
gives lists.
-/

namespace LayerCode

open Cbor

/-- The generated code of one node. -/
structure Artifact where
  node : String := ""
  variant : String := ""
  config : String := ""
  call : String := ""
  includes : Option (List String) := none
deriving DecidableEq, Repr

/-- The generated code of a graph. -/
structure Result where
  graph : String := ""
  backend : String := ""
  artifacts : Option (List Artifact) := none
  includes : Option (List String) := none
deriving DecidableEq, Repr

/-- The headers of a node. -/
def Artifact.headers (a : Artifact) : List String := a.includes.getD []

/-- The code of every node. -/
def Result.parts (r : Result) : List Artifact := r.artifacts.getD []

/-- The headers of a graph. -/
def Result.headers (r : Result) : List String := r.includes.getD []

/-- The bytes of a list that may be absent. -/
def listBytes {α : Type} (element : α → List UInt8) : Option (List α) → List UInt8
  | none => Write.null
  | some as => Write.array (as.map element)

/-- The bytes of the code of a node. -/
def Artifact.bytes (a : Artifact) : List UInt8 :=
  Write.map
    [("node", Write.text a.node), ("variant", Write.text a.variant), ("config", Write.text a.config),
     ("call", Write.text a.call), ("includes", listBytes Write.text a.includes)]

/-- The bytes of the code of a graph. -/
def Result.bytes (r : Result) : List UInt8 :=
  Write.map
    [("graph", Write.text r.graph), ("backend", Write.text r.backend),
     ("artifacts", listBytes Artifact.bytes r.artifacts),
     ("includes", listBytes Write.text r.includes)]

end LayerCode
