import LayerCode.Cbor.Write
import LayerCode.Graph.Basic
import LayerCode.Snapshot.Payload

/-!
# Writing snapshots

A graph is written as one item: a record of its name and its nodes. Fields stand in order of
declaration, and those that may be left out are left out when they are zero. The weights of a node
are a map, which may be written in any order; the plain writer puts the shortest names first.

* `attributesBytes`, `nodeBytes`: the bytes of a record and of a node;
* `encodeWith`: the bytes of a graph, the weights of each node in an order of choice;
* `encode`: the bytes of a graph.
-/

namespace LayerCode.Snapshot

open Text Cbor

/-- The bytes of a field. -/
def fieldBytes : FieldValue → List UInt8
  | .count n => Write.int n
  | .flag b => Write.bool b
  | .poolOp p => Write.text p.name
  | .dataFormat f => Write.text f.name

/-- The bytes of an attribute record, or of its absence. -/
def attributesBytes : Option Attributes → List UInt8
  | none => Write.null
  | some a => Write.map (a.fields.map fun f => (f.tag, fieldBytes f.value))

/-- The bytes of a buffer. -/
def bufferBytes (p : Buffer) : List UInt8 :=
  Write.map [("var", Write.text p.var), ("type", Write.text p.type)]

/-- The bytes of a weight. -/
def tensorBytes (precision : Precision) (t : Tensor) : List UInt8 :=
  Write.map
    [("shape", Write.array (t.shape.map Write.int)), ("encoding", Write.text precision.name),
     ("data", Write.bytes (Payload.write precision t.data))]

/-- A field that is left out when it is zero. -/
def optional {α : Type} (tag : String) (isZero : Bool) (value : α) : List (String × α) :=
  if isZero then [] else [(tag, value)]

/-- The bytes of a node, with the bytes of its weights. -/
def nodeBytes (n : Node) (weights : List (String × List UInt8)) : List UInt8 :=
  Write.map <|
    [("name", Write.text n.name), ("index", Write.int n.index),
     ("variant", Write.text n.variant.name)] ++
    optional "strategy" (n.strategy == "") (Write.text n.strategy) ++
    optional "reuse_factor" (n.reuseFactor == 0) (Write.int n.reuseFactor) ++
    [("input", bufferBytes n.input), ("output", bufferBytes n.output),
     ("attrs", attributesBytes n.attrs)] ++
    optional "weights" weights.isEmpty (Write.map weights) ++
    optional "transformed" (n.layout == .untransformed) (Write.bool true)

/-- A weight that cannot be written, as its encoding is unknown. -/
structure WriteFault where
  node : String
  weight : String
  encoding : String
deriving DecidableEq, Repr

/-- The text of a fault. -/
def WriteFault.message (f : WriteFault) : String :=
  "node " ++ quoted f.node ++ ": weight " ++ quoted f.weight ++ ": " ++
    (Payload.Fault.unknownEncoding f.encoding).message

/-- The bytes of a node in a named encoding, its weights in an order of choice. -/
def encodeNode (arrange : Node → List Tensor) (encoding : String) (n : Node) :
    Except WriteFault (List UInt8) :=
  match Precision.ofName? encoding, n.weights with
  | some precision, _ =>
    .ok (nodeBytes n ((arrange n).map fun t => (t.name, tensorBytes precision t)))
  | none, [] => .ok (nodeBytes n [])
  | none, t :: _ => .error ⟨n.name, t.name, encoding⟩

/-- The bytes of a graph in a named encoding, the weights of each node in an order of choice. -/
def encodeWith (arrange : Node → List Tensor) (encoding : String) (g : Graph) :
    Except WriteFault (List UInt8) := do
  let nodes ← g.nodes.mapM (encodeNode arrange encoding)
  pure (Write.map [("name", Write.text g.name), ("nodes", Write.array nodes)])

/-- One name is shorter than another, or as long and not after it. -/
def shorterFirst (s t : String) : Bool :=
  s.utf8ByteSize < t.utf8ByteSize || (s.utf8ByteSize == t.utf8ByteSize && s ≤ t)

/-- Puts a weight in front of the first one whose name comes later. -/
def placeByKey (t : Tensor) : List Tensor → List Tensor
  | [] => [t]
  | u :: us => if shorterFirst t.name u.name then t :: u :: us else u :: placeByKey t us

/-- Weights in the order of the bytes of their written names. -/
def byKey (ts : List Tensor) : List Tensor := ts.foldr placeByKey []

/-- The bytes of a graph in a named encoding, weights with shorter names first. -/
def encode (encoding : String) (g : Graph) : Except WriteFault (List UInt8) :=
  encodeWith (fun n => byKey n.weights) encoding g

end LayerCode.Snapshot
