import LayerCode.Cbor.Read
import LayerCode.Cbor.Scan
import LayerCode.Graph.Basic
import LayerCode.Snapshot.Payload

/-!
# Reading snapshots

Bytes are scanned for their first item, which is read into a document; the document is then loaded
node by node. The attribute record of a node stays an item until the variant of the node is known.

* `Document`, `NodeEntry`, `TensorEntry`: what a snapshot says;
* `readDocument`: an item as a document;
* `readAttributes`: an item as the attribute record of a variant;
* `load`: the graph of a document;
* `decode`: the graph in bytes.
-/

namespace LayerCode.Snapshot

open Text Cbor

/-! ## Documents -/

/-- A weight as a snapshot says it. -/
structure TensorEntry where
  shape : List Int64 := []
  encoding : String := ""
  data : List UInt8 := []

/-- A node as a snapshot says it. -/
structure NodeEntry where
  name : String := ""
  index : Int64 := 0
  variant : String := ""
  strategy : String := ""
  reuseFactor : Int64 := 0
  input : Buffer := {}
  output : Buffer := {}
  attrs : Option Item := none
  weights : List (String × TensorEntry) := []
  transformed : Bool := false

/-- A graph as a snapshot says it. -/
structure Document where
  name : String := ""
  nodes : List NodeEntry := []

/-- Puts an entry into a list that is in order of its keys; an entry with the same key gives way. -/
def insertEntry {α : Type} (e : String × α) : List (String × α) → List (String × α)
  | [] => [e]
  | f :: fs =>
    if e.1 < f.1 then e :: f :: fs
    else if e.1 = f.1 then e :: fs
    else f :: insertEntry e fs

/-- Entries in order of their keys; of several with one key the last. -/
def orderEntries {α : Type} (es : List (String × α)) : List (String × α) :=
  es.foldl (fun ordered e => insertEntry e ordered) []

/-- A buffer. -/
def readBuffer : Item → Except Cbor.Fault Buffer :=
  readRecord id
    [⟨"var", fun i p => do pure { p with var := ← readText i }⟩,
     ⟨"type", fun i p => do pure { p with type := ← readText i }⟩]
    {}

/-- A weight. -/
def readTensor : Item → Except Cbor.Fault TensorEntry :=
  readRecord id
    [⟨"shape", fun i t => do pure { t with shape := ← readArray id readInt i }⟩,
     ⟨"encoding", fun i t => do pure { t with encoding := ← readText i }⟩,
     ⟨"data", fun i t => do pure { t with data := ← readBytes i }⟩]
    {}

/-- An item that is kept as it is, once the tags in front of it are checked. -/
def readRaw (item : Item) : Except Cbor.Fault Item := do
  checkTags item
  pure item

/-- A node. -/
def readNode : Item → Except Cbor.Fault NodeEntry :=
  readRecord id
    [⟨"name", fun i n => do pure { n with name := ← readText i }⟩,
     ⟨"index", fun i n => do pure { n with index := ← readInt i }⟩,
     ⟨"variant", fun i n => do pure { n with variant := ← readText i }⟩,
     ⟨"strategy", fun i n => do pure { n with strategy := ← readText i }⟩,
     ⟨"reuse_factor", fun i n => do pure { n with reuseFactor := ← readInt i }⟩,
     ⟨"input", fun i n => do pure { n with input := ← readBuffer i }⟩,
     ⟨"output", fun i n => do pure { n with output := ← readBuffer i }⟩,
     ⟨"attrs", fun i n => do pure { n with attrs := some (← readRaw i) }⟩,
     ⟨"weights", fun i n => do
       pure { n with weights := orderEntries (← readMap id readTensor i) }⟩,
     ⟨"transformed", fun i n => do pure { n with transformed := ← readBool i }⟩]
    {}

/-- A document. -/
def readDocument : Item → Except Cbor.Fault Document :=
  readRecord id
    [⟨"name", fun i d => do pure { d with name := ← readText i }⟩,
     ⟨"nodes", fun i d => do pure { d with nodes := ← readArray id readNode i }⟩]
    {}

/-! ## Attribute records -/

/-- An attribute record that cannot be read. -/
inductive AttributeFault where
  | missing
  | item (fault : Cbor.Fault)
  | option (error : OptionError)
deriving DecidableEq, Repr

/-- The text of a fault. -/
def AttributeFault.message : AttributeFault → String
  | .missing => "invalid layer attributes: missing attrs"
  | .item fault => "invalid layer attributes: " ++ fault.message
  | .option error => "invalid layer attributes: " ++ error.message

/-- A field of the type that a value of it has. -/
def readFieldValue (like : FieldValue) (item : Item) : Except AttributeFault FieldValue :=
  match like with
  | .count _ => .count <$> lifting .item (readInt item)
  | .flag _ => .flag <$> lifting .item (readBool item)
  | .poolOp _ => do
    let text ← lifting .item (readText item)
    .poolOp <$> (PoolOp.parse text).mapError .option
  | .dataFormat _ => do
    let text ← lifting .item (readText item)
    .dataFormat <$> (DataFormat.parse text).mapError .option

/-- The reader of a field, which collects the values by their tags. -/
def entryReader (f : Field) : FieldReader AttributeFault Entries :=
  ⟨f.tag, fun item entries => do pure ((f.tag, ← readFieldValue f.value item) :: entries)⟩

/-- The attribute record of a type. -/
def readAttributes (kind : RecordKind) : Option Item → Except AttributeFault Attributes
  | none => .error .missing
  | some item => do
    let entries ← readRecord .item ((Attributes.zero kind).fields.map entryReader) [] item
    pure (Attributes.ofEntries entries kind)

/-! ## Loading -/

/-- Why an entry is no node. -/
inductive LoadFault where
  | variant (error : Variant.ParseError)
  | attributes (fault : AttributeFault)
  | payload (weight : String) (fault : Payload.Fault)
  | tensor (fault : Tensor.Fault)
  | node (cause : Node.Cause)
deriving DecidableEq, Repr

/-- The text of a fault. -/
def LoadFault.message : LoadFault → String
  | .variant error => error.message
  | .attributes fault => fault.message
  | .payload weight fault => "weight " ++ quoted weight ++ ": " ++ fault.message
  | .tensor fault => fault.message
  | .node cause => cause.message

/-- The weight of an entry. -/
def loadTensor (e : String × TensorEntry) : Except LoadFault Tensor := do
  let data ← (Payload.read e.2.encoding e.2.data).mapError (.payload e.1)
  (Tensor.make e.1 e.2.shape data).mapError .tensor

/-- The node of an entry. -/
def loadNode (e : NodeEntry) : Except LoadFault Node := do
  let variant ← (Variant.parse e.variant).mapError .variant
  let attrs ← (readAttributes variant.record e.attrs).mapError .attributes
  let weights ← e.weights.mapM loadTensor
  let node ← (Node.make
    { name := e.name, index := e.index, variant := variant.code, strategy := e.strategy
      reuseFactor := e.reuseFactor, input := e.input, output := e.output
      attrs := some attrs, weights := weights }).mapError fun f => .node f.cause
  pure (if e.transformed then node.markTransformed else node)

/-- Why bytes hold no graph. -/
inductive Fault where
  | document (fault : Cbor.Fault)
  | node (position : Nat) (graphName nodeName : String) (fault : LoadFault)
  | graph (fault : Graph.Fault)
deriving DecidableEq, Repr

/-- The text of a fault. -/
def Fault.message : Fault → String
  | .document fault => "failed to decode graph snapshot: " ++ fault.message
  | .node position graphName nodeName fault =>
    "failed to load node " ++ position.repr ++ " of graph " ++ quoted graphName ++ ": node " ++
      quoted nodeName ++ ": " ++ fault.message
  | .graph fault => fault.message

/-- The nodes of entries, numbered from a position. -/
def loadNodes (graph : String) : Nat → List NodeEntry → Except Fault (List Node)
  | _, [] => .ok []
  | i, e :: es =>
    match loadNode e with
    | .error fault => .error (.node i graph e.name fault)
    | .ok n => (n :: ·) <$> loadNodes graph (i + 1) es

/-- The graph of a document. -/
def load (d : Document) : Except Fault Graph := do
  let nodes ← loadNodes d.name 0 d.nodes
  (Graph.make d.name nodes).mapError .graph

/-- The graph in bytes; what follows the first item is ignored. -/
def decode (bytes : List UInt8) : Except Fault Graph := do
  let (item, _) ← (scan bytes).mapError .document
  let document ← (readDocument item).mapError .document
  load document

end LayerCode.Snapshot
