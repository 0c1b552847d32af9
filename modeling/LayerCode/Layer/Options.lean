import LayerCode.Text.Quoted

/-!
# Options of a layer

The reduction of a pooling layer and the channel order of a layer's activations are held as the
number they were given with, so that an undeclared number stays visible. A number of no reduction has
a name that shows it; every channel order other than channels first is called channels last.

* `PoolOp`, `DataFormat`: the options, their names and the readers of those names;
* `LayoutState`: whether the weights of a layer have been brought into kernel order.
-/

namespace LayerCode

open Text

/-- The reduction that a pooling kernel applies. -/
structure PoolOp where
  code : UInt8
deriving DecidableEq, Repr, Inhabited

/-- The order of the channels in a layer's activations. -/
structure DataFormat where
  code : UInt8
deriving DecidableEq, Repr, Inhabited

/-- A text that names no option. -/
inductive OptionError where
  | poolOp (text : String)
  | dataFormat (text : String)
deriving DecidableEq, Repr

/-- The text of an option that could not be read. -/
def OptionError.message : OptionError → String
  | .poolOp text => "invalid layer attributes: pool_op " ++ quoted text
  | .dataFormat text => "invalid layer attributes: data_format " ++ quoted text

namespace PoolOp

/-- The option that was not set. -/
def unset : PoolOp := ⟨0⟩

/-- The largest value. -/
def max : PoolOp := ⟨1⟩

/-- The mean value. -/
def average : PoolOp := ⟨2⟩

/-- The reduction is a declared one. -/
def declared (p : PoolOp) : Bool := p == max || p == average

/-- The name of a reduction, in the spelling of the kernels. -/
def name (p : PoolOp) : String :=
  if p = max then "Max"
  else if p = average then "Average"
  else "PoolOp(" ++ p.code.toNat.repr ++ ")"

/-- The reduction with a name. -/
def parse (text : String) : Except OptionError PoolOp :=
  if text = "Max" then .ok max
  else if text = "Average" then .ok average
  else .error (.poolOp text)

end PoolOp

namespace DataFormat

/-- Channels are the innermost axis. -/
def channelsLast : DataFormat := ⟨0⟩

/-- Channels are the outermost axis. -/
def channelsFirst : DataFormat := ⟨1⟩

/-- The name of a channel order. -/
def name (f : DataFormat) : String :=
  if f = channelsFirst then "channels_first" else "channels_last"

/-- The channel order with a name; the empty name is channels last. -/
def parse (text : String) : Except OptionError DataFormat :=
  if text = "" ∨ text = "channels_last" then .ok channelsLast
  else if text = "channels_first" then .ok channelsFirst
  else .error (.dataFormat text)

end DataFormat

/-- Whether the weights of a layer have been brought into kernel order. -/
inductive LayoutState where
  | untransformed
  | transformed
deriving DecidableEq, Repr, Inhabited

/-- The name of a layout state. -/
def LayoutState.name : LayoutState → String
  | .untransformed => "untransformed"
  | .transformed => "transformed"

/-- The layout state with a number. -/
def LayoutState.ofCode (n : Nat) : LayoutState := if n = 1 then .transformed else .untransformed

end LayerCode
