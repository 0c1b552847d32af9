import LayerCode.Pass.Basic
import LayerCode.Text.Fold

/-!
# Weights in streaming order

Kernels of the resource strategy stream their weights filter by filter. The pass of this module
brings the weights of such nodes into that order, once for each node: dense and recurrent weights
are transposed, convolution weights get their filter axis in front.

* `Rule`, `Variant.resourceRules`: which weights of a variant are reordered, and how;
* `Resource.transformNode`: all weights of a node reordered, or none;
* `Resource.pass`: the pass.
-/

namespace LayerCode

open Text

/-- How one weight is reordered; without axes it is a matrix to be transposed. -/
structure Rule where
  weight : String
  axes : Option (List Int64)
deriving DecidableEq, Repr

namespace Rule

/-- A matrix is transposed. -/
def transpose (weight : String) : Rule := ⟨weight, none⟩

/-- Width, channel, filter becomes filter, width, channel. -/
def filterFirst1D (weight : String) : Rule := ⟨weight, some [2, 0, 1]⟩

/-- Height, width, channel, filter becomes filter, height, width, channel. -/
def filterFirst2D (weight : String) : Rule := ⟨weight, some [3, 0, 1, 2]⟩

/-- The contents that a rule gives to a weight. -/
def apply (r : Rule) (t : Tensor) : Except Tensor.Fault Layout :=
  match r.axes with
  | none => t.transpose
  | some axes => t.permute axes

end Rule

/-- The rules of a variant that has a resource strategy. Which order attention kernels stream in is
not settled, so their weights stay. -/
def Variant.resourceRules : Variant → Option (List Rule)
  | .dense => some [.transpose "weight"]
  | .conv1D => some [.filterFirst1D "weight"]
  | .separableConv1D => some [.filterFirst1D "depthwise", .filterFirst1D "pointwise"]
  | .conv2D => some [.filterFirst2D "weight"]
  | .separableConv2D => some [.filterFirst2D "depthwise", .filterFirst2D "pointwise"]
  | .lstm | .gru => some [.transpose "weight", .transpose "recurrent_weight"]
  | .multiHeadAttention => some []
  | .pooling1D | .pooling2D | .globalPooling1D | .globalPooling2D => none

namespace Resource

/-- The pass has rules for a variant. -/
def supports (v : Variant) : Bool := v.resourceRules.isSome

/-- The node asks for the resource strategy. -/
def selected (n : Node) : Bool := sameWord n.strategy "resource"

/-- The pass applies to a node: its variant has rules, it asks for the strategy, and its weights
have not been reordered. -/
def applies (n : Node) : Bool :=
  supports n.variant && selected n && n.layout == .untransformed

/-- The contents that a rule gives to a weight of the node. -/
def stage (n : Node) (r : Rule) : Except TransformFault (String × Layout) :=
  match n.weight? r.weight with
  | none => .error (.missingWeight n.variant r.weight)
  | some t => do
    let l ← (r.apply t).mapError .tensor
    pure (r.weight, l)

/-- The node with the staged contents in place. -/
def commit (n : Node) (staged : List (String × Layout)) : Node :=
  (staged.foldl (fun m s => m.setWeight s.1 s.2) n).markTransformed

/-- The node with all its rules applied. Nothing is changed before every weight was staged. -/
def transformNode (n : Node) : Except TransformFault Node :=
  match n.variant.resourceRules with
  | none => .error (.noRule n.variant)
  | some rules =>
    if n.layout = .transformed then .ok n
    else do
      let staged ← rules.mapM (stage n)
      pure (commit n staged)

/-- The events that changing a node logs. -/
def events (n : Node) : List LogEvent :=
  if n.variant = .multiHeadAttention ∧ n.layout = .untransformed then
    [.notReordered n.name n.variant]
  else []

/-- Changes the node at a place; there is never a need to start over. -/
def transform {σ : Type} (state : σ) (g : Graph) (i : Nat) : Effect σ :=
  match g.node? i with
  | none => { state := state, graph := g, restart := .ok false }
  | some n =>
    match transformNode n with
    | .error fault => { state := state, graph := g, events := events n, restart := .error fault }
    | .ok m =>
      { state := state, graph := g.setNode i m, events := events n, restart := .ok false }

/-- The pass, among passes with any state. -/
def pass {σ : Type} : Pass σ where
  name := "apply_resource_strategy"
  applies _ n := applies n
  transform := transform

end Resource

end LayerCode
