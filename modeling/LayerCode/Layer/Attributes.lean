import LayerCode.Layer.Options
import LayerCode.Layer.Variant
import LayerCode.Text.Listing

/-!
# Attribute records

Each variant has a record type for the numbers and options of its layers. A record can be listed as
its fields, in order of declaration: the tag by which a snapshot calls the field, the symbol by which
a template does, whether it has to be positive, and its value. Checking, writing, reading and
rendering go through this list.

* the nine record types, `RecordKind` and `Attributes`, one of them;
* `Variant.record`: the record type of a variant;
* `Attributes.fields`, `Attributes.ofEntries`: a record as a list of fields, and back;
* `Attributes.check`: required numbers are positive and the reduction is a declared one.
-/

namespace LayerCode

open Text

/-- A fully connected layer. -/
structure DenseAttrs where
  nIn : Int64 := 0
  nOut : Int64 := 0
  nZeros : Int64 := 0
deriving DecidableEq, Repr, Inhabited

/-- A one-dimensional convolution, plain or separable. -/
structure Conv1DAttrs where
  inWidth : Int64 := 0
  nChan : Int64 := 0
  filtWidth : Int64 := 0
  nFilt : Int64 := 0
  strideWidth : Int64 := 0
  padLeft : Int64 := 0
  padRight : Int64 := 0
  outWidth : Int64 := 0
  dataFormat : DataFormat := .channelsLast
deriving DecidableEq, Repr, Inhabited

/-- A two-dimensional convolution, plain or separable. -/
structure Conv2DAttrs where
  inHeight : Int64 := 0
  inWidth : Int64 := 0
  nChan : Int64 := 0
  filtHeight : Int64 := 0
  filtWidth : Int64 := 0
  nFilt : Int64 := 0
  strideHeight : Int64 := 0
  strideWidth : Int64 := 0
  padTop : Int64 := 0
  padBottom : Int64 := 0
  padLeft : Int64 := 0
  padRight : Int64 := 0
  outHeight : Int64 := 0
  outWidth : Int64 := 0
  dataFormat : DataFormat := .channelsLast
deriving DecidableEq, Repr, Inhabited

/-- A recurrent layer. -/
structure RecurrentAttrs where
  nIn : Int64 := 0
  nOut : Int64 := 0
  nSequence : Int64 := 0
  returnSequences : Bool := false
deriving DecidableEq, Repr, Inhabited

/-- A multi-head attention layer. -/
structure AttentionAttrs where
  numHeads : Int64 := 0
  headDimKey : Int64 := 0
  headDimValue : Int64 := 0
  featureDim : Int64 := 0
  seqLen : Int64 := 0
deriving DecidableEq, Repr, Inhabited

/-- A one-dimensional pooling layer. -/
structure Pooling1DAttrs where
  strideWidth : Int64 := 0
  poolWidth : Int64 := 0
  nIn : Int64 := 0
  nOut : Int64 := 0
  nFilt : Int64 := 0
  padLeft : Int64 := 0
  padRight : Int64 := 0
  poolOp : PoolOp := .unset
  dataFormat : DataFormat := .channelsLast
deriving DecidableEq, Repr, Inhabited

/-- A two-dimensional pooling layer. -/
structure Pooling2DAttrs where
  strideHeight : Int64 := 0
  strideWidth : Int64 := 0
  poolHeight : Int64 := 0
  poolWidth : Int64 := 0
  inHeight : Int64 := 0
  inWidth : Int64 := 0
  outHeight : Int64 := 0
  outWidth : Int64 := 0
  nFilt : Int64 := 0
  padTop : Int64 := 0
  padBottom : Int64 := 0
  padLeft : Int64 := 0
  padRight : Int64 := 0
  poolOp : PoolOp := .unset
  dataFormat : DataFormat := .channelsLast
deriving DecidableEq, Repr, Inhabited

/-- A pooling layer over its whole one-dimensional input. -/
structure GlobalPooling1DAttrs where
  nIn : Int64 := 0
  nFilt : Int64 := 0
  poolOp : PoolOp := .unset
  dataFormat : DataFormat := .channelsLast
deriving DecidableEq, Repr, Inhabited

/-- A pooling layer over its whole two-dimensional input. -/
structure GlobalPooling2DAttrs where
  inHeight : Int64 := 0
  inWidth : Int64 := 0
  nFilt : Int64 := 0
  poolOp : PoolOp := .unset
  dataFormat : DataFormat := .channelsLast
deriving DecidableEq, Repr, Inhabited

/-- The record types. -/
inductive RecordKind where
  | dense
  | conv1D
  | conv2D
  | recurrent
  | attention
  | pooling1D
  | pooling2D
  | globalPooling1D
  | globalPooling2D
deriving DecidableEq, Repr

/-- Every record type. -/
def RecordKind.all : List RecordKind :=
  [.dense, .conv1D, .conv2D, .recurrent, .attention, .pooling1D, .pooling2D, .globalPooling1D,
   .globalPooling2D]

/-- The name of a record type. -/
def RecordKind.name : RecordKind → String
  | .dense => "DenseAttrs"
  | .conv1D => "Conv1DAttrs"
  | .conv2D => "Conv2DAttrs"
  | .recurrent => "RecurrentAttrs"
  | .attention => "AttentionAttrs"
  | .pooling1D => "Pooling1DAttrs"
  | .pooling2D => "Pooling2DAttrs"
  | .globalPooling1D => "GlobalPooling1DAttrs"
  | .globalPooling2D => "GlobalPooling2DAttrs"

/-- The record type of a variant. -/
def Variant.record : Variant → RecordKind
  | .dense => .dense
  | .conv1D | .separableConv1D => .conv1D
  | .conv2D | .separableConv2D => .conv2D
  | .lstm | .gru => .recurrent
  | .multiHeadAttention => .attention
  | .pooling1D => .pooling1D
  | .pooling2D => .pooling2D
  | .globalPooling1D => .globalPooling1D
  | .globalPooling2D => .globalPooling2D

/-- The attribute record of a layer. -/
inductive Attributes where
  | dense (a : DenseAttrs)
  | conv1D (a : Conv1DAttrs)
  | conv2D (a : Conv2DAttrs)
  | recurrent (a : RecurrentAttrs)
  | attention (a : AttentionAttrs)
  | pooling1D (a : Pooling1DAttrs)
  | pooling2D (a : Pooling2DAttrs)
  | globalPooling1D (a : GlobalPooling1DAttrs)
  | globalPooling2D (a : GlobalPooling2DAttrs)
deriving DecidableEq, Repr

/-! ## Records as lists of fields -/

/-- The value of a field. -/
inductive FieldValue where
  | count (n : Int64)
  | flag (b : Bool)
  | poolOp (p : PoolOp)
  | dataFormat (f : DataFormat)
deriving DecidableEq, Repr

/-- One field of a record: its tag in a snapshot, its symbol in a template, whether it has to be
positive, and its value. -/
structure Field where
  tag : String
  symbol : String
  required : Bool
  value : FieldValue
deriving DecidableEq, Repr

namespace Field

/-- A number that has to be positive. -/
def size (tag symbol : String) (n : Int64) : Field := ⟨tag, symbol, true, .count n⟩

/-- A number without a bound. -/
def amount (tag symbol : String) (n : Int64) : Field := ⟨tag, symbol, false, .count n⟩

/-- A switch. -/
def flag (tag symbol : String) (b : Bool) : Field := ⟨tag, symbol, false, .flag b⟩

/-- The reduction of a pooling layer. -/
def poolOp (p : PoolOp) : Field := ⟨"pool_op", "PoolOp", false, .poolOp p⟩

/-- The channel order. -/
def dataFormat (f : DataFormat) : Field := ⟨"data_format", "DataFormat", false, .dataFormat f⟩

end Field

/-- Values by tag, from which a record can be made. -/
abbrev Entries := List (String × FieldValue)

namespace Entries

/-- The number with a tag; zero when there is none. -/
def count (e : Entries) (tag : String) : Int64 :=
  match e.lookup tag with
  | some (.count n) => n
  | _ => 0

/-- The switch with a tag; off when there is none. -/
def flag (e : Entries) (tag : String) : Bool :=
  match e.lookup tag with
  | some (.flag b) => b
  | _ => false

/-- The reduction; unset when there is none. -/
def poolOp (e : Entries) : PoolOp :=
  match e.lookup "pool_op" with
  | some (.poolOp p) => p
  | _ => .unset

/-- The channel order; channels last when there is none. -/
def dataFormat (e : Entries) : DataFormat :=
  match e.lookup "data_format" with
  | some (.dataFormat f) => f
  | _ => .channelsLast

end Entries

/-- The fields of a fully connected layer. -/
def DenseAttrs.fields (a : DenseAttrs) : List Field :=
  [.size "n_in" "NIn" a.nIn, .size "n_out" "NOut" a.nOut, .amount "n_zeros" "NZeros" a.nZeros]

/-- The fields of a one-dimensional convolution. -/
def Conv1DAttrs.fields (a : Conv1DAttrs) : List Field :=
  [.size "in_width" "InWidth" a.inWidth, .size "n_chan" "NChan" a.nChan,
   .size "filt_width" "FiltWidth" a.filtWidth, .size "n_filt" "NFilt" a.nFilt,
   .size "stride_width" "StrideWidth" a.strideWidth, .amount "pad_left" "PadLeft" a.padLeft,
   .amount "pad_right" "PadRight" a.padRight, .size "out_width" "OutWidth" a.outWidth,
   .dataFormat a.dataFormat]

/-- The fields of a two-dimensional convolution. -/
def Conv2DAttrs.fields (a : Conv2DAttrs) : List Field :=
  [.size "in_height" "InHeight" a.inHeight, .size "in_width" "InWidth" a.inWidth,
   .size "n_chan" "NChan" a.nChan, .size "filt_height" "FiltHeight" a.filtHeight,
   .size "filt_width" "FiltWidth" a.filtWidth, .size "n_filt" "NFilt" a.nFilt,
   .size "stride_height" "StrideHeight" a.strideHeight,
   .size "stride_width" "StrideWidth" a.strideWidth, .amount "pad_top" "PadTop" a.padTop,
   .amount "pad_bottom" "PadBottom" a.padBottom, .amount "pad_left" "PadLeft" a.padLeft,
   .amount "pad_right" "PadRight" a.padRight, .size "out_height" "OutHeight" a.outHeight,
   .size "out_width" "OutWidth" a.outWidth, .dataFormat a.dataFormat]

/-- The fields of a recurrent layer. -/
def RecurrentAttrs.fields (a : RecurrentAttrs) : List Field :=
  [.size "n_in" "NIn" a.nIn, .size "n_out" "NOut" a.nOut,
   .size "n_sequence" "NSequence" a.nSequence,
   .flag "return_sequences" "ReturnSequences" a.returnSequences]

/-- The fields of a multi-head attention layer. -/
def AttentionAttrs.fields (a : AttentionAttrs) : List Field :=
  [.size "num_heads" "NumHeads" a.numHeads, .size "head_dim_key" "HeadDimKey" a.headDimKey,
   .size "head_dim_value" "HeadDimValue" a.headDimValue,
   .size "feature_dim" "FeatureDim" a.featureDim, .size "seq_len" "SeqLen" a.seqLen]

/-- The fields of a one-dimensional pooling layer. -/
def Pooling1DAttrs.fields (a : Pooling1DAttrs) : List Field :=
  [.size "stride_width" "StrideWidth" a.strideWidth, .size "pool_width" "PoolWidth" a.poolWidth,
   .size "n_in" "NIn" a.nIn, .size "n_out" "NOut" a.nOut, .size "n_filt" "NFilt" a.nFilt,
   .amount "pad_left" "PadLeft" a.padLeft, .amount "pad_right" "PadRight" a.padRight,
   .poolOp a.poolOp, .dataFormat a.dataFormat]

/-- The fields of a two-dimensional pooling layer. -/
def Pooling2DAttrs.fields (a : Pooling2DAttrs) : List Field :=
  [.size "stride_height" "StrideHeight" a.strideHeight,
   .size "stride_width" "StrideWidth" a.strideWidth,
   .size "pool_height" "PoolHeight" a.poolHeight, .size "pool_width" "PoolWidth" a.poolWidth,
   .size "in_height" "InHeight" a.inHeight, .size "in_width" "InWidth" a.inWidth,
   .size "out_height" "OutHeight" a.outHeight, .size "out_width" "OutWidth" a.outWidth,
   .size "n_filt" "NFilt" a.nFilt, .amount "pad_top" "PadTop" a.padTop,
   .amount "pad_bottom" "PadBottom" a.padBottom, .amount "pad_left" "PadLeft" a.padLeft,
   .amount "pad_right" "PadRight" a.padRight, .poolOp a.poolOp, .dataFormat a.dataFormat]

/-- The fields of a pooling layer over its whole one-dimensional input. -/
def GlobalPooling1DAttrs.fields (a : GlobalPooling1DAttrs) : List Field :=
  [.size "n_in" "NIn" a.nIn, .size "n_filt" "NFilt" a.nFilt, .poolOp a.poolOp,
   .dataFormat a.dataFormat]

/-- The fields of a pooling layer over its whole two-dimensional input. -/
def GlobalPooling2DAttrs.fields (a : GlobalPooling2DAttrs) : List Field :=
  [.size "in_height" "InHeight" a.inHeight, .size "in_width" "InWidth" a.inWidth,
   .size "n_filt" "NFilt" a.nFilt, .poolOp a.poolOp, .dataFormat a.dataFormat]

namespace Attributes

/-- The type of a record. -/
def kind : Attributes → RecordKind
  | .dense _ => .dense
  | .conv1D _ => .conv1D
  | .conv2D _ => .conv2D
  | .recurrent _ => .recurrent
  | .attention _ => .attention
  | .pooling1D _ => .pooling1D
  | .pooling2D _ => .pooling2D
  | .globalPooling1D _ => .globalPooling1D
  | .globalPooling2D _ => .globalPooling2D

/-- The fields of a record, in order of declaration. -/
def fields : Attributes → List Field
  | .dense a => a.fields
  | .conv1D a => a.fields
  | .conv2D a => a.fields
  | .recurrent a => a.fields
  | .attention a => a.fields
  | .pooling1D a => a.fields
  | .pooling2D a => a.fields
  | .globalPooling1D a => a.fields
  | .globalPooling2D a => a.fields

/-- The record of a type with the given values; a field without a value is zero. -/
def ofEntries (e : Entries) : RecordKind → Attributes
  | .dense =>
    .dense { nIn := e.count "n_in", nOut := e.count "n_out", nZeros := e.count "n_zeros" }
  | .conv1D =>
    .conv1D
      { inWidth := e.count "in_width", nChan := e.count "n_chan"
        filtWidth := e.count "filt_width", nFilt := e.count "n_filt"
        strideWidth := e.count "stride_width", padLeft := e.count "pad_left"
        padRight := e.count "pad_right", outWidth := e.count "out_width"
        dataFormat := e.dataFormat }
  | .conv2D =>
    .conv2D
      { inHeight := e.count "in_height", inWidth := e.count "in_width", nChan := e.count "n_chan"
        filtHeight := e.count "filt_height", filtWidth := e.count "filt_width"
        nFilt := e.count "n_filt", strideHeight := e.count "stride_height"
        strideWidth := e.count "stride_width", padTop := e.count "pad_top"
        padBottom := e.count "pad_bottom", padLeft := e.count "pad_left"
        padRight := e.count "pad_right", outHeight := e.count "out_height"
        outWidth := e.count "out_width", dataFormat := e.dataFormat }
  | .recurrent =>
    .recurrent
      { nIn := e.count "n_in", nOut := e.count "n_out", nSequence := e.count "n_sequence"
        returnSequences := e.flag "return_sequences" }
  | .attention =>
    .attention
      { numHeads := e.count "num_heads", headDimKey := e.count "head_dim_key"
        headDimValue := e.count "head_dim_value", featureDim := e.count "feature_dim"
        seqLen := e.count "seq_len" }
  | .pooling1D =>
    .pooling1D
      { strideWidth := e.count "stride_width", poolWidth := e.count "pool_width"
        nIn := e.count "n_in", nOut := e.count "n_out", nFilt := e.count "n_filt"
        padLeft := e.count "pad_left", padRight := e.count "pad_right"
        poolOp := e.poolOp, dataFormat := e.dataFormat }
  | .pooling2D =>
    .pooling2D
      { strideHeight := e.count "stride_height", strideWidth := e.count "stride_width"
        poolHeight := e.count "pool_height", poolWidth := e.count "pool_width"
        inHeight := e.count "in_height", inWidth := e.count "in_width"
        outHeight := e.count "out_height", outWidth := e.count "out_width"
        nFilt := e.count "n_filt", padTop := e.count "pad_top"
        padBottom := e.count "pad_bottom", padLeft := e.count "pad_left"
        padRight := e.count "pad_right", poolOp := e.poolOp, dataFormat := e.dataFormat }
  | .globalPooling1D =>
    .globalPooling1D
      { nIn := e.count "n_in", nFilt := e.count "n_filt", poolOp := e.poolOp
        dataFormat := e.dataFormat }
  | .globalPooling2D =>
    .globalPooling2D
      { inHeight := e.count "in_height", inWidth := e.count "in_width"
        nFilt := e.count "n_filt", poolOp := e.poolOp, dataFormat := e.dataFormat }

/-- The record of a type with all fields zero. -/
def zero (k : RecordKind) : Attributes := ofEntries [] k

/-- The values of a record by tag. -/
def entries (a : Attributes) : Entries := a.fields.map fun f => (f.tag, f.value)

/-- The reduction of a pooling record. -/
def poolOp? : Attributes → Option PoolOp
  | .pooling1D a => some a.poolOp
  | .pooling2D a => some a.poolOp
  | .globalPooling1D a => some a.poolOp
  | .globalPooling2D a => some a.poolOp
  | _ => none

/-- The channel order of a record that has one. -/
def dataFormat? : Attributes → Option DataFormat
  | .conv1D a => some a.dataFormat
  | .conv2D a => some a.dataFormat
  | .pooling1D a => some a.dataFormat
  | .pooling2D a => some a.dataFormat
  | .globalPooling1D a => some a.dataFormat
  | .globalPooling2D a => some a.dataFormat
  | _ => none

/-! ## Checking -/

/-- A record that no layer may have. -/
inductive Fault where
  | poolOpUnset
  | notPositive (tag : String) (value : Int64)
deriving DecidableEq, Repr

/-- The text of a fault. -/
def Fault.message : Fault → String
  | .poolOpUnset => "invalid layer attributes: pool_op not set"
  | .notPositive tag value =>
    "invalid layer attributes: " ++ tag ++ " must be positive, got " ++ decimal value

/-- The required numbers with their tags. -/
def required (a : Attributes) : List (String × Int64) :=
  a.fields.filterMap fun f =>
    match f.required, f.value with
    | true, .count n => some (f.tag, n)
    | _, _ => none

/-- The first fault of a record: an undeclared reduction, else the first required number in order of
its tag that is not positive. -/
def check (a : Attributes) : Except Fault Unit :=
  if (a.poolOp?.map PoolOp.declared).getD true then
    match (sortOn Prod.fst a.required).find? fun (_, n) => n ≤ 0 with
    | some (tag, n) => .error (.notPositive tag n)
    | none => .ok ()
  else .error .poolOpUnset

end Attributes

end LayerCode
