import LayerCode.Text.EditDistance
import LayerCode.Text.Quoted

/-!
# Layer variants

The closed set of layer kinds that code can be generated for. A variant has a name, by which a
snapshot calls it, a number, by which it is handed over, a family of kernels, and the names of the
weights that a layer of this variant owns.

* `Variant`, `Variant.all`, `Variant.code`, `Variant.ofCode?`, `Variant.name`;
* `Variant.parse`: the variant with a name, or the name that comes closest to it;
* `Variant.family`, `Variant.declaredWeights`.
-/

namespace LayerCode

open Text

/-- The layer kinds. -/
inductive Variant where
  | dense
  | conv1D
  | conv2D
  | separableConv1D
  | separableConv2D
  | lstm
  | gru
  | multiHeadAttention
  | pooling1D
  | pooling2D
  | globalPooling1D
  | globalPooling2D
deriving DecidableEq, Repr, Inhabited

/-- Variants that share a kernel header. -/
inductive Family where
  | dense
  | conv1D
  | conv2D
  | separableConv1D
  | separableConv2D
  | recurrent
  | attention
  | pooling
deriving DecidableEq, Repr

/-- The name of a family. -/
def Family.name : Family → String
  | .dense => "dense"
  | .conv1D => "conv1d"
  | .conv2D => "conv2d"
  | .separableConv1D => "sepconv1d"
  | .separableConv2D => "sepconv2d"
  | .recurrent => "recurrent"
  | .attention => "attention"
  | .pooling => "pooling"

namespace Variant

/-- Every variant, in order of declaration. -/
def all : List Variant :=
  [.dense, .conv1D, .conv2D, .separableConv1D, .separableConv2D, .lstm, .gru, .multiHeadAttention,
   .pooling1D, .pooling2D, .globalPooling1D, .globalPooling2D]

/-- The number of a variant. Zero and all numbers above twelve are of no variant. -/
def code : Variant → UInt8
  | .dense => 1
  | .conv1D => 2
  | .conv2D => 3
  | .separableConv1D => 4
  | .separableConv2D => 5
  | .lstm => 6
  | .gru => 7
  | .multiHeadAttention => 8
  | .pooling1D => 9
  | .pooling2D => 10
  | .globalPooling1D => 11
  | .globalPooling2D => 12

/-- The variant with a number. -/
def ofCode? (n : UInt8) : Option Variant := all.find? fun v => v.code == n

/-- The name of a variant, as snapshots and messages write it. -/
def name : Variant → String
  | .dense => "Dense"
  | .conv1D => "Conv1D"
  | .conv2D => "Conv2D"
  | .separableConv1D => "SeparableConv1D"
  | .separableConv2D => "SeparableConv2D"
  | .lstm => "LSTM"
  | .gru => "GRU"
  | .multiHeadAttention => "MultiHeadAttention"
  | .pooling1D => "Pooling1D"
  | .pooling2D => "Pooling2D"
  | .globalPooling1D => "GlobalPooling1D"
  | .globalPooling2D => "GlobalPooling2D"

/-- The name that goes with a number, also with one that is of no variant. -/
def nameOfCode (n : UInt8) : String :=
  match ofCode? n with
  | some v => v.name
  | none => "LayerVariant(" ++ n.toNat.repr ++ ")"

/-- The family of a variant. -/
def family : Variant → Family
  | .dense => .dense
  | .conv1D => .conv1D
  | .conv2D => .conv2D
  | .separableConv1D => .separableConv1D
  | .separableConv2D => .separableConv2D
  | .lstm | .gru => .recurrent
  | .multiHeadAttention => .attention
  | .pooling1D | .pooling2D | .globalPooling1D | .globalPooling2D => .pooling

/-- What is reported when the family of a number without a variant is asked for. -/
def noFamilyMessage (n : UInt8) : String := "graph: no family for " ++ nameOfCode n

/-- The names of the weights that a layer of this variant owns, in order of declaration. -/
def declaredWeights : Variant → List String
  | .dense | .conv1D | .conv2D => ["weight", "bias"]
  | .separableConv1D | .separableConv2D => ["depthwise", "pointwise", "bias"]
  | .lstm | .gru => ["weight", "bias", "recurrent_weight", "recurrent_bias"]
  | .multiHeadAttention =>
    ["key_weight", "key_bias", "query_weight", "query_bias", "value_weight", "value_bias",
     "attention_output_weight", "attention_output_bias"]
  | .pooling1D | .pooling2D | .globalPooling1D | .globalPooling2D => []

/-! ## Reading a name -/

/-- A name of no variant, with the closest name when it is near. -/
structure ParseError where
  name : String
  suggestion : Option Variant
deriving DecidableEq, Repr

/-- The text of a failed reading. -/
def ParseError.message (e : ParseError) : String :=
  "unknown layer variant " ++ quoted e.name ++
    match e.suggestion with
    | some v => " (did you mean " ++ quoted v.name ++ "?)"
    | none => ""

/-- The largest distance at which a name is suggested. -/
def suggestionReach : Nat := 3

/-- Of two candidates with their distances, the nearer; the earlier one when they are equally near. -/
def nearer (best : Option (Variant × Nat)) (next : Variant × Nat) : Option (Variant × Nat) :=
  match best with
  | none => some next
  | some b => if next.2 < b.2 then some next else some b

/-- The variant whose name is closest to a text, with the distance. -/
def closest (text : String) : Option (Variant × Nat) :=
  (all.map fun v => (v, editDistance text v.name)).foldl nearer none

/-- The variant with exactly this name. -/
def parse (text : String) : Except ParseError Variant :=
  match all.find? fun v => v.name == text with
  | some v => .ok v
  | none =>
    match closest text with
    | some (v, d) => .error ⟨text, if d ≤ suggestionReach then some v else none⟩
    | none => .error ⟨text, none⟩

end Variant

end LayerCode
