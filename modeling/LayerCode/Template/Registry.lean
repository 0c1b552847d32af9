import LayerCode.Template.Builtin
import LayerCode.Template.Render

/-!
# Registries of templates

A registry holds the config template and the call template of variants, and for each a sample
record to try them on. It is kept by the number of the variant, so that templates can be registered
under any number.

* `Registry`, `Registry.builtin`, `Registry.sealed`;
* `Registry.register`: the registry with other templates for a variant;
* `Registry.config`, `Registry.call`: the generated text of a node;
* `Registry.check`: the templates of every variant tried on their samples.
-/

namespace LayerCode

open Text

/-- Templates by the number of their variant. A sealed registry takes none. -/
structure Registry where
  configs : List (UInt8 × Template) := []
  calls : List (UInt8 × Template) := []
  samples : List (UInt8 × Option Attributes) := []
  isSealed : Bool := false
deriving DecidableEq, Repr

namespace Registry

/-- Why a text cannot be generated. -/
inductive Fault where
  | noConfig (variant : Variant)
  | noCall (variant : Variant)
  | missing (variant : Variant)
  | failed (variant : Variant) (cause : Template.Cause)
deriving DecidableEq, Repr

/-- The text of a fault. -/
def Fault.message : Fault → String
  | .noConfig variant => "missing template: no config template for " ++ variant.name
  | .noCall variant => "missing template: no call template for " ++ variant.name
  | .missing variant => "missing template: " ++ variant.name
  | .failed variant cause => "missing template: " ++ variant.name ++ ": " ++ cause.message

/-- The registry without templates, which takes none. -/
def sealed : Registry := { isSealed := true }

/-- The registry of the kernel library. -/
def builtin : Registry where
  configs := Variant.all.map fun v => (v.code, Template.builtinConfig v)
  calls := Variant.all.map fun v => (v.code, Template.builtinCall v)
  samples := Variant.all.map fun v => (v.code, some (Attributes.zero v.record))

/-- Puts templates for a variant in place, and tells whether both texts are templates. The config
template is in place before the call template is looked at. -/
def register (r : Registry) (code : UInt8) (sample : Option Attributes) (config call : String) :
    Registry × Bool :=
  if r.isSealed then (r, false)
  else match Template.parse config with
    | none => (r, false)
    | some t =>
      let r := { r with configs := (code, t) :: r.configs }
      match Template.parse call with
      | none => (r, false)
      | some u =>
        ({ r with calls := (code, u) :: r.calls, samples := (code, sample) :: r.samples }, true)

/-- Both templates are there. -/
def has (r : Registry) (code : UInt8) : Bool :=
  (r.configs.lookup code).isSome && (r.calls.lookup code).isSome

/-- The text of a template for a variant. -/
def renderFor (v : Variant) (resolve : List String → List RawText → Except Template.Cause String)
    (t : Template) : Except Fault String :=
  (Template.render resolve t).mapError (.failed v)

/-- The config block of a node. -/
def config (r : Registry) (n : Node) : Except Fault String :=
  match r.configs.lookup n.variant.code with
  | none => .error (.noConfig n.variant)
  | some t => renderFor n.variant (Template.ConfigValues.ofNode n).resolve t

/-- The invocation of a node with the short name of a channel order. -/
def call (r : Registry) (n : Node) (dataFormat : String) : Except Fault String :=
  match r.calls.lookup n.variant.code with
  | none => .error (.noCall n.variant)
  | some t => renderFor n.variant (Template.CallValues.ofNode n dataFormat).resolve t

/-! ## Trying templates -/

/-- The values that a config template is tried on. -/
def sampleConfig (attrs : Option Attributes) : Template.ConfigValues where
  index := 1
  attrs := attrs
  reuseFactor := 1
  strategy := Template.defaultStrategy

/-- The values that a call template is tried on. -/
def sampleCall (v : Variant) : Template.CallValues where
  config := Template.configSymbol 1
  inputType := "input_t"
  outputType := "result_t"
  input := "input"
  output := "output"
  dataFormat := "cl"
  strategy := Template.defaultStrategy
  weights := Template.weightSymbols v 1

/-- The fault of a failed text. -/
def faultOf {α : Type} : Except Fault α → List Fault
  | .ok _ => []
  | .error f => [f]

/-- The faults of a variant's templates. -/
def checkVariant (r : Registry) (v : Variant) : List Fault :=
  match r.configs.lookup v.code, r.calls.lookup v.code with
  | some config, some call =>
    faultOf (renderFor v (sampleConfig ((r.samples.lookup v.code).join)).resolve config) ++
      faultOf (renderFor v (sampleCall v).resolve call)
  | _, _ => [.missing v]

/-- The faults of all variants' templates; none when every template can be rendered. -/
def check (r : Registry) : List Fault := Variant.all.flatMap (checkVariant r)

/-- The text of several faults, one to a line. -/
def checkMessage (faults : List Fault) : String := "\n".intercalate (faults.map Fault.message)

end Registry

end LayerCode
