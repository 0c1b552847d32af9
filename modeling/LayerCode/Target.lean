import LayerCode.Pass.Resource
import LayerCode.Template.Registry
import LayerCode.Text.Title

/-!
# Targets

A target is a compiler that the generated code is for: it has a name, may or may not have kernels
with the channels first, and has its own templates.

* `Target`, `Target.vivado`, `Target.quartus`, `Target.lookup`;
* `Target.validate`: the channel order of a node, if the target has kernels for it;
* `Family.headers`: the headers of a family of kernels.
-/

namespace LayerCode

open Text

/-- The headers that the kernels of a family need. -/
def Family.headers : Family → List String
  | .dense => ["nnet_utils/nnet_dense.h"]
  | .conv1D => ["nnet_utils/nnet_conv1d.h"]
  | .conv2D => ["nnet_utils/nnet_conv2d.h"]
  | .separableConv1D => ["nnet_utils/nnet_sepconv1d.h", "nnet_utils/nnet_conv1d.h"]
  | .separableConv2D => ["nnet_utils/nnet_sepconv2d.h", "nnet_utils/nnet_conv2d.h"]
  | .recurrent => ["nnet_utils/nnet_recurrent.h"]
  | .attention => ["nnet_utils/nnet_multiheadattention.h"]
  | .pooling => ["nnet_utils/nnet_pooling.h"]

/-- The headers that an invocation of a variant needs. -/
def Variant.headers (v : Variant) : List String := v.family.headers

/-- The channel orders that kernels come in. -/
inductive ChannelOrder where
  | last
  | first
deriving DecidableEq, Repr

/-- The short name of a channel order, as in the names of kernels. -/
def ChannelOrder.tag : ChannelOrder → String
  | .last => "cl"
  | .first => "cf"

/-- What code is generated for. -/
structure Target where
  name : String
  /-- There are kernels with the channels first. -/
  channelsFirst : Bool
  registry : Registry
deriving DecidableEq, Repr

namespace Target

/-- The target whose kernels come in both channel orders. -/
def vivado : Target := ⟨"vivado", true, .builtin⟩

/-- The target whose kernels have the channels last. -/
def quartus : Target := ⟨"quartus", false, .builtin⟩

/-- Every target, in order of the names. -/
def all : List Target := [quartus, vivado]

/-- The names of all targets. -/
def names : List String := all.map name

/-- A name of no target. -/
structure Unknown where
  name : RawText
deriving DecidableEq, Repr

/-- The text of an unknown name. -/
def Unknown.message (u : Unknown) : String :=
  "unknown backend " ++ u.name.quoted ++ ", expected one of " ++ bracketed names

/-- The target with a name, in any case. -/
def lookup (text : RawText) : Except Unknown Target :=
  match text.toString? with
  | none => .error ⟨text⟩
  | some s =>
    match all.find? fun t => sameWord s t.name with
    | some t => .ok t
    | none => .error ⟨text⟩

/-- The passes that run before code is generated. -/
def passes (_ : Target) : List (Pass Unit) := [Resource.pass]

/-- A channel order that the target has no kernels for. -/
structure NotSupported where
  format : DataFormat
  target : String
  node : String
deriving DecidableEq, Repr

/-- The text of a channel order that is not supported. -/
def NotSupported.message (f : NotSupported) : String :=
  "not supported: data_format=" ++ f.format.name ++ " for " ++ title f.target ++ " on node " ++
    quoted f.node

/-- The channel order of a node's kernel; channels last for records without one. -/
def validate (t : Target) (n : Node) : Except NotSupported ChannelOrder :=
  match n.attrs.bind Attributes.dataFormat? with
  | none => .ok .last
  | some f =>
    if f = .channelsLast then .ok .last
    else if t.channelsFirst then .ok .first
    else .error ⟨f, t.name, n.name⟩

end Target

end LayerCode
