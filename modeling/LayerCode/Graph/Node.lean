import LayerCode.Layer.Attributes
import LayerCode.Tensor.Basic

/-!
# Nodes

A node is one layer: its names and numbers, its attribute record, and the weights that its variant
declares. Weights are kept in order of their names.

* `Buffer`, `Node`, and `NodeSpec`, what a node is made from;
* `Node.make`: the nodes whose record and weights fit their variant;
* `Node.weight?`, `Node.setWeight`, `Node.markTransformed`.
-/

namespace LayerCode

open Text

/-- An activation buffer of the generated code and the type of its elements. -/
structure Buffer where
  var : String := ""
  type : String := ""
deriving DecidableEq, Repr, Inhabited

/-- One layer of a graph. The weights stand in order of their names. -/
structure Node where
  name : String
  index : Int64
  strategy : String
  reuseFactor : Int64
  input : Buffer
  output : Buffer
  attrs : Option Attributes
  variant : Variant
  weights : List Tensor
  layout : LayoutState
deriving DecidableEq, Repr

/-- What is known about a layer before it is checked. -/
structure NodeSpec where
  name : String := ""
  index : Int64 := 0
  variant : UInt8 := 0
  strategy : String := ""
  reuseFactor : Int64 := 0
  input : Buffer := {}
  output : Buffer := {}
  attrs : Option Attributes := none
  weights : List Tensor := []
deriving DecidableEq, Repr

namespace Node

/-- What a layer can lack. -/
inductive Cause where
  | unknownVariant (code : UInt8)
  | wrongRecord (record : Option RecordKind) (variant : Variant)
  | badAttributes (fault : Attributes.Fault)
  | duplicateWeight (weight : String)
  | wrongWeights (variant : Variant) (got : List String)
deriving DecidableEq, Repr

/-- A refused layer, by its name. -/
structure Fault where
  node : String
  cause : Cause
deriving DecidableEq, Repr

/-- How messages call the type of an attribute record, or its absence. -/
def recordName : Option RecordKind → String
  | some k => "graph." ++ k.name
  | none => "<nil>"

/-- The text of a cause. -/
def Cause.message : Cause → String
  | .unknownVariant code => "unknown layer variant " ++ Variant.nameOfCode code
  | .wrongRecord record variant =>
    "invalid layer attributes: " ++ recordName record ++ " is not a " ++ variant.name ++ " record"
  | .badAttributes fault => fault.message
  | .duplicateWeight weight =>
    "weight set does not match layer variant: duplicate " ++ quoted weight
  | .wrongWeights variant got =>
    "weight set does not match layer variant: " ++ variant.name ++ " declares " ++
      bracketed (sortOn id variant.declaredWeights) ++ ", got " ++ bracketed got

/-- The text of a refusal. -/
def Fault.message (f : Fault) : String := "node " ++ quoted f.node ++ ": " ++ f.cause.message

/-- The weights of a layer in order of their names, if they are those that the variant declares. -/
def checkWeights (v : Variant) (weights : List Tensor) : Except Cause (List Tensor) :=
  match firstRepeated [] (weights.map Tensor.name) with
  | some w => .error (.duplicateWeight w)
  | none =>
    let sorted := sortOn Tensor.name weights
    if sorted.map Tensor.name = sortOn id v.declaredWeights then .ok sorted
    else .error (.wrongWeights v (sorted.map Tensor.name))

/-- The record of a layer, if it is one of the variant's type without a fault. -/
def checkRecord (v : Variant) : Option Attributes → Except Cause Attributes
  | none => .error (.wrongRecord none v)
  | some a =>
    if a.kind ≠ v.record then .error (.wrongRecord (some a.kind) v)
    else match a.check with
      | .error f => .error (.badAttributes f)
      | .ok () => .ok a

/-- The variant with a number. -/
def checkVariant (code : UInt8) : Except Cause Variant :=
  match Variant.ofCode? code with
  | some v => .ok v
  | none => .error (.unknownVariant code)

/-- The node of a layer whose record and weights fit its variant. A reuse factor below one is one. -/
def make (spec : NodeSpec) : Except Fault Node :=
  let checked : Except Cause Node := do
    let variant ← checkVariant spec.variant
    let attrs ← checkRecord variant spec.attrs
    let weights ← checkWeights variant spec.weights
    pure
      { name := spec.name, index := spec.index, strategy := spec.strategy
        reuseFactor := if spec.reuseFactor ≤ 0 then 1 else spec.reuseFactor
        input := spec.input, output := spec.output, attrs := some attrs
        variant := variant, weights := weights, layout := .untransformed }
  checked.mapError fun cause => ⟨spec.name, cause⟩

/-- The weight with a name. -/
def weight? (n : Node) (name : String) : Option Tensor := n.weights.find? fun t => t.name == name

/-- The names of the weights, in order. -/
def weightNames (n : Node) : List String := n.weights.map Tensor.name

/-- Gives the weight with a name other contents, unchecked. -/
def setWeight (n : Node) (name : String) (l : Layout) : Node :=
  { n with weights := n.weights.map fun t => if t.name = name then t.replace l else t }

/-- Notes that the weights are in kernel order. -/
def markTransformed (n : Node) : Node := { n with layout := .transformed }

end Node

end LayerCode
