import LayerCode.Layer.Attributes
import LayerCode.Template.Basic

/-!
# The templates of the kernel library

Every variant has a config block, a struct of constants derived from the kernel's base, and an
invocation, a call of the kernel with the buffers and the weights.

* `setting`, `configBlock`: a line of a config block, and a block of lines;
* `invocation`: a call of a kernel;
* `builtinConfig`, `builtinCall`: the templates of a variant.
-/

namespace LayerCode.Template

open Text

/-- A value of the node. -/
def value (field : String) : Piece := .lookup [field] []

/-- A field of the attribute record. -/
def attr (symbol : String) : Piece := .lookup ["Attrs", symbol] []

/-- The symbol of a weight. -/
def weight (name : String) : Piece := .lookup ["Weight"] [.ofString name]

/-! ## Config blocks -/

/-- A line that sets a constant; its value may have a qualifier. -/
def setting (type name qualifier : String) (v : Piece) : Template :=
  [.literal ("    static const " ++ type ++ " " ++ name ++ " = " ++ qualifier), v, .literal ";\n"]

/-- A number from the attribute record. -/
def number (name symbol : String) : Template := setting "unsigned" name "" (attr symbol)

/-- An empty line. -/
def gap : Template := [.literal "\n"]

/-- The reduction of a pooling kernel. -/
def poolOpSetting : Template := setting "nnet::Pool_Op" "pool_op" "nnet::" (attr "PoolOp")

/-- The reuse factor. -/
def reuseFactorSetting : Template := setting "unsigned" "reuse_factor" "" (value "ReuseFactor")

/-- The strategy. -/
def strategySetting : Template := setting "unsigned" "strategy" "nnet::" (value "Strategy")

/-- The block of a kernel with its lines. -/
def configBlock (kernel : String) (lines : List Template) : Template :=
  [.literal "struct config", value "Index", .literal (" : nnet::" ++ kernel ++ "_config \x7b\n")] ++
    lines.flatten ++ [.literal "\x7d;\n"]

/-- The block of a fully connected layer. -/
def denseConfig : Template :=
  configBlock "dense"
    [number "n_in" "NIn", number "n_out" "NOut", reuseFactorSetting, number "n_zeros" "NZeros",
     strategySetting]

/-- The block of a one-dimensional convolution. -/
def conv1DConfig : Template :=
  configBlock "conv1d"
    [number "pad_left" "PadLeft", number "pad_right" "PadRight", number "in_width" "InWidth",
     number "n_chan" "NChan", number "filt_width" "FiltWidth", number "n_filt" "NFilt",
     number "stride_width" "StrideWidth", number "out_width" "OutWidth", reuseFactorSetting,
     strategySetting]

/-- The block of a two-dimensional convolution. -/
def conv2DConfig : Template :=
  configBlock "conv2d"
    [number "pad_top" "PadTop", number "pad_bottom" "PadBottom", number "pad_left" "PadLeft",
     number "pad_right" "PadRight", number "in_height" "InHeight", number "in_width" "InWidth",
     number "n_chan" "NChan", number "filt_height" "FiltHeight", number "filt_width" "FiltWidth",
     number "n_filt" "NFilt", number "stride_height" "StrideHeight",
     number "stride_width" "StrideWidth", number "out_height" "OutHeight",
     number "out_width" "OutWidth", reuseFactorSetting, strategySetting]

/-- The block of a recurrent layer. -/
def recurrentConfig (kernel : String) : Template :=
  configBlock kernel
    [number "n_in" "NIn", number "n_out" "NOut", number "n_state" "NOut",
     number "n_sequence" "NSequence",
     setting "bool" "return_sequences" "" (attr "ReturnSequences"), reuseFactorSetting,
     strategySetting]

/-- The block of an attention layer. -/
def attentionConfig : Template :=
  configBlock "multiheadattention"
    [number "num_heads" "NumHeads", number "head_dim_key" "HeadDimKey",
     number "head_dim_value" "HeadDimValue", number "feature_dim" "FeatureDim",
     number "seq_len" "SeqLen", reuseFactorSetting, strategySetting]

/-- The block of a one-dimensional pooling layer. -/
def pooling1DConfig : Template :=
  configBlock "pooling1d"
    [number "stride_width" "StrideWidth", number "pool_width" "PoolWidth", gap,
     number "n_in" "NIn", number "n_out" "NOut", gap,
     number "n_filt" "NFilt", gap,
     number "pad_left" "PadLeft", number "pad_right" "PadRight", gap,
     poolOpSetting]

/-- The block of a two-dimensional pooling layer. -/
def pooling2DConfig : Template :=
  configBlock "pooling2d"
    [number "stride_height" "StrideHeight", number "stride_width" "StrideWidth", gap,
     number "pool_height" "PoolHeight", number "pool_width" "PoolWidth", gap,
     number "in_height" "InHeight", number "in_width" "InWidth", number "out_height" "OutHeight",
     number "out_width" "OutWidth", gap,
     number "n_filt" "NFilt", gap,
     number "pad_top" "PadTop", number "pad_bottom" "PadBottom", number "pad_left" "PadLeft",
     number "pad_right" "PadRight", gap,
     poolOpSetting]

/-- The block of a pooling layer over its whole one-dimensional input. -/
def globalPooling1DConfig : Template :=
  configBlock "pooling1d" [number "n_in" "NIn", number "n_filt" "NFilt", poolOpSetting]

/-- The block of a pooling layer over its whole two-dimensional input. -/
def globalPooling2DConfig : Template :=
  configBlock "pooling2d"
    [number "in_height" "InHeight", number "in_width" "InWidth", number "n_filt" "NFilt",
     poolOpSetting]

/-- The config block of a variant. -/
def builtinConfig : Variant → Template
  | .dense => denseConfig
  | .conv1D | .separableConv1D => conv1DConfig
  | .conv2D | .separableConv2D => conv2DConfig
  | .lstm => recurrentConfig "lstm"
  | .gru => recurrentConfig "gru"
  | .multiHeadAttention => attentionConfig
  | .pooling1D => pooling1DConfig
  | .pooling2D => pooling2DConfig
  | .globalPooling1D => globalPooling1DConfig
  | .globalPooling2D => globalPooling2DConfig

/-! ## Invocations -/

/-- Kernels whose name ends in the channel order, and those for which it does not matter. -/
inductive KernelName where
  | plain (name : String)
  | formatted (name : String)

/-- The name of a kernel in a call. -/
def KernelName.pieces : KernelName → Template
  | .plain name => [.literal ("nnet::" ++ name)]
  | .formatted name => [.literal ("nnet::" ++ name ++ "_"), value "DataFormat"]

/-- Values with a comma between them. -/
def commaSeparated : List Piece → Template
  | [] => []
  | [p] => [p]
  | p :: ps => p :: .literal ", " :: commaSeparated ps

/-- A call of a kernel with buffers and weights. -/
def invocation (kernel : KernelName) (arguments : List Piece) : Template :=
  kernel.pieces ++ [.literal "<"] ++
    commaSeparated [value "InputType", value "OutputType", value "Config"] ++ [.literal ">("] ++
    commaSeparated arguments ++ [.literal ");"]

/-- The invocation of a variant. An attention layer attends over its own input, which it is given
as query and as value. -/
def builtinCall : Variant → Template
  | .dense =>
    invocation (.plain "dense") [value "Input", value "Output", weight "weight", weight "bias"]
  | .conv1D =>
    invocation (.formatted "conv_1d")
      [value "Input", value "Output", weight "weight", weight "bias"]
  | .conv2D =>
    invocation (.formatted "conv_2d")
      [value "Input", value "Output", weight "weight", weight "bias"]
  | .separableConv1D =>
    invocation (.formatted "separable_conv_1d")
      [value "Input", value "Output", weight "depthwise", weight "pointwise", weight "bias"]
  | .separableConv2D =>
    invocation (.formatted "separable_conv_2d")
      [value "Input", value "Output", weight "depthwise", weight "pointwise", weight "bias"]
  | .lstm =>
    invocation (.plain "lstm_stack")
      [value "Input", value "Output", weight "weight", weight "recurrent_weight", weight "bias",
       weight "recurrent_bias"]
  | .gru =>
    invocation (.plain "gru_stack")
      [value "Input", value "Output", weight "weight", weight "recurrent_weight", weight "bias",
       weight "recurrent_bias"]
  | .multiHeadAttention =>
    invocation (.plain "multiheadattention")
      [value "Input", value "Input", value "Output", weight "attention_output_weight",
       weight "attention_output_bias", weight "key_weight", weight "key_bias",
       weight "query_weight", weight "query_bias", weight "value_weight", weight "value_bias"]
  | .pooling1D => invocation (.formatted "pooling1d") [value "Input", value "Output"]
  | .pooling2D => invocation (.formatted "pooling2d") [value "Input", value "Output"]
  | .globalPooling1D => invocation (.formatted "global_pooling1d") [value "Input", value "Output"]
  | .globalPooling2D => invocation (.formatted "global_pooling2d") [value "Input", value "Output"]

end LayerCode.Template
