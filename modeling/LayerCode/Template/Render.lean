import LayerCode.Graph.Node
import LayerCode.Template.Basic
import LayerCode.Text.Lower

/-!
# Rendering

A template is rendered against values: those of a config block, or those of an invocation. A path
that names no value fails, and so does a weight that the variant does not declare.

* `ConfigValues`, `CallValues`: the values, and those of a node;
* `weightSymbol`, `configSymbol`: the names of generated symbols;
* `render`: the text of a template.
-/

namespace LayerCode

open Text

namespace Template

/-- Why a template cannot be rendered. -/
inductive Cause where
  /-- A path names no value, or takes no such arguments. -/
  | unresolved
  | undeclaredWeight (name : RawText)
deriving DecidableEq, Repr

/-- The text of a cause. -/
def Cause.message : Cause → String
  | .unresolved => "<template>"
  | .undeclaredWeight name => "weight " ++ name.quoted ++ " is not declared"

/-! ## Symbols -/

/-- The strategy of nodes that name none. -/
def defaultStrategy : String := "latency"

/-- The strategy as generated code spells it. -/
def strategyText (s : String) : String := if s = "" then defaultStrategy else lower s

/-- The config block of the node with an index. -/
def configSymbol (index : Int64) : String := "config" ++ decimal index

/-- What the symbol of a weight starts with. -/
def symbolStem (weight : String) : String :=
  match weight with
  | "weight" => "w"
  | "bias" => "b"
  | "recurrent_weight" => "wr"
  | "recurrent_bias" => "br"
  | "depthwise" => "d"
  | "pointwise" => "p"
  | other => other

/-- The array of a weight of the node with an index. -/
def weightSymbol (index : Int64) (weight : String) : String := symbolStem weight ++ decimal index

/-- The arrays of all weights of a node, by the names of the weights. -/
def weightSymbols (v : Variant) (index : Int64) : List (String × String) :=
  v.declaredWeights.map fun w => (w, weightSymbol index w)

/-! ## Values -/

/-- The text of a field. -/
def fieldText : FieldValue → String
  | .count n => decimal n
  | .flag b => if b then "true" else "false"
  | .poolOp p => p.name
  | .dataFormat f => f.name

/-- Words between braces, one blank apart. -/
def braced (words : List String) : String := "\x7b" ++ " ".intercalate words ++ "\x7d"

/-- The text of a whole record. -/
def attributesText : Option Attributes → String
  | none => "<nil>"
  | some a => braced (a.fields.map fun f => fieldText f.value)

/-- The text of the field of a record with a symbol. The channel order also goes by the name
`Format`. -/
def attributeText (attrs : Option Attributes) (symbol : String) : Except Cause String :=
  match attrs with
  | none => .error .unresolved
  | some a =>
    match a.fields.find? fun f => f.symbol == symbol with
    | some f => .ok (fieldText f.value)
    | none =>
      match symbol, a.dataFormat? with
      | "Format", some f => .ok f.name
      | _, _ => .error .unresolved

/-- The values of a config block. -/
structure ConfigValues where
  index : Int64
  attrs : Option Attributes
  reuseFactor : Int64
  strategy : String
deriving DecidableEq, Repr

/-- The values of an invocation. -/
structure CallValues where
  config : String
  inputType : String
  outputType : String
  input : String
  output : String
  /-- The short name of the channel order. -/
  dataFormat : String
  strategy : String
  /-- The symbols of the declared weights. -/
  weights : List (String × String)
deriving DecidableEq, Repr

/-- The values of a node's config block. -/
def ConfigValues.ofNode (n : Node) : ConfigValues where
  index := n.index
  attrs := n.attrs
  reuseFactor := n.reuseFactor
  strategy := strategyText n.strategy

/-- The values of a node's invocation. -/
def CallValues.ofNode (n : Node) (dataFormat : String) : CallValues where
  config := configSymbol n.index
  inputType := n.input.type
  outputType := n.output.type
  input := n.input.var
  output := n.output.var
  dataFormat := dataFormat
  strategy := strategyText n.strategy
  weights := weightSymbols n.variant n.index

/-- The text of all values of a config block. -/
def ConfigValues.text (v : ConfigValues) : String :=
  braced [decimal v.index, attributesText v.attrs, decimal v.reuseFactor, v.strategy]

/-- The value of a config block that a path names. -/
def ConfigValues.resolve (v : ConfigValues) (path : List String) (args : List RawText) :
    Except Cause String :=
  match path, args with
  | [], [] => .ok v.text
  | ["Index"], [] => .ok (decimal v.index)
  | ["ReuseFactor"], [] => .ok (decimal v.reuseFactor)
  | ["Strategy"], [] => .ok v.strategy
  | ["Attrs"], [] => .ok (attributesText v.attrs)
  | ["Attrs", symbol], [] => attributeText v.attrs symbol
  | _, _ => .error .unresolved

/-- The text of all symbols of weights, in order of the weights' names. -/
def symbolsText (weights : List (String × String)) : String :=
  "map" ++ bracketed ((sortOn Prod.fst weights).map fun w => w.1 ++ ":" ++ w.2)

/-- The text of all values of an invocation. -/
def CallValues.text (v : CallValues) : String :=
  braced [v.config, v.inputType, v.outputType, v.input, v.output, v.dataFormat, v.strategy,
    symbolsText v.weights, bracketed (v.weights.map Prod.fst)]

/-- The symbol of a declared weight. -/
def CallValues.weight (v : CallValues) (name : RawText) : Except Cause String :=
  match v.weights.find? fun w => RawText.ofString w.1 == name with
  | some w => .ok w.2
  | none => .error (.undeclaredWeight name)

/-- The value of an invocation that a path names. -/
def CallValues.resolve (v : CallValues) (path : List String) (args : List RawText) :
    Except Cause String :=
  match path, args with
  | [], [] => .ok v.text
  | ["Config"], [] => .ok v.config
  | ["InputType"], [] => .ok v.inputType
  | ["OutputType"], [] => .ok v.outputType
  | ["Input"], [] => .ok v.input
  | ["Output"], [] => .ok v.output
  | ["DataFormat"], [] => .ok v.dataFormat
  | ["Strategy"], [] => .ok v.strategy
  | ["Weights"], [] => .ok (symbolsText v.weights)
  | ["Weights", name], [] =>
    match v.weights.lookup name with
    | some symbol => .ok symbol
    | none => .error .unresolved
  | ["Weight"], [name] => v.weight name
  | _, _ => .error .unresolved

/-! ## Text -/

/-- The text of a template, given how paths are looked up. -/
def render (resolve : List String → List RawText → Except Cause String) (t : Template) :
    Except Cause String := do
  let texts ← t.mapM fun
    | .literal text => pure text
    | .lookup path args => resolve path args
  pure (String.join texts)

end Template

end LayerCode
