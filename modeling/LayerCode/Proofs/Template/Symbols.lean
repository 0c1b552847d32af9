import Mathlib.Data.List.Nodup
import LayerCode.Proofs.Cbor.Read
import LayerCode.Proofs.Template.Readable

/-!
# Generated symbols

The symbol of a weight is a stem for the name of the weight, and the index of the node right behind
it. No stem holds a digit or a minus sign, so both can be read off the symbol. An invocation of the
kernel library passes buffers and then weights, which the variant declares in another order.

* `symbolStem_inj`, **`weightSymbol_inj`**, `configSymbol_inj`: symbols tell the weight and the
  index;
* `lookup_weightSymbols`, `CallValues.weight_eq`: the symbol that a weight is looked up as;
* `Invocation`, `builtinCall_eq`, `passedWeights_perm`, `nodup_passedWeights`: what an invocation
  passes;
* **`render_builtinCall`**, **`exists_render_config`**: the texts of a node, with their symbols.
-/

namespace LayerCode.Template

open Text Outcome

/-! ## Stems and indices -/

/-- The names of all weights. -/
def weightNames : List String := Variant.all.flatMap Variant.declaredWeights

theorem mem_weightNames {v : Variant} {a : String} (h : a ∈ v.declaredWeights) :
    a ∈ weightNames := by
  refine List.mem_flatMap.mpr ⟨v, ?_, h⟩
  cases v <;> decide

theorem symbolStem_inj {a b : String} (ha : a ∈ weightNames) (hb : b ∈ weightNames)
    (h : symbolStem a = symbolStem b) : a = b := by
  have hall : ∀ a ∈ weightNames, ∀ b ∈ weightNames, symbolStem a = symbolStem b → a = b := by
    decide +kernel
  exact hall a ha b hb h

theorem symbolStem_letters {a : String} (ha : a ∈ weightNames) :
    (symbolStem a).toList.any inNumber = false := by
  have hall : ∀ a ∈ weightNames, (symbolStem a).toList.any inNumber = false := by
    decide +kernel
  exact hall a ha

/-- **Different weights, and weights of nodes with different indices, have different symbols.** -/
theorem weightSymbol_inj {a b : String} (ha : a ∈ weightNames) (hb : b ∈ weightNames) {i j : Int64}
    (h : weightSymbol i a = weightSymbol j b) : a = b ∧ i = j := by
  obtain ⟨hstem, hindex⟩ := append_decimal_inj (symbolStem_letters ha) (symbolStem_letters hb) h
  exact ⟨symbolStem_inj ha hb hstem, hindex⟩

theorem configSymbol_inj {i j : Int64} (h : configSymbol i = configSymbol j) : i = j :=
  (append_decimal_inj (by decide) (by decide) h).2

/-! ## Looking up weights -/

theorem lookup_tabulated {α β : Type} [BEq α] [LawfulBEq α] (f : α → β) {a : α} {as : List α}
    (h : a ∈ as) : (as.map fun b => (b, f b)).lookup a = some (f a) := by
  induction as with
  | nil => exact absurd h List.not_mem_nil
  | cons b as ih =>
    rw [List.map_cons, List.lookup_cons]
    by_cases hab : a = b
    · simp [hab]
    · rw [beq_eq_false_iff_ne.mpr hab]
      exact ih ((List.mem_cons.mp h).resolve_left hab)

theorem lookup_weightSymbols {v : Variant} {a : String} (h : a ∈ v.declaredWeights) (i : Int64) :
    (weightSymbols v i).lookup a = some (weightSymbol i a) :=
  lookup_tabulated (weightSymbol i) h

theorem ofString_inj {s s' : String} (h : RawText.ofString s = RawText.ofString s') : s = s' := by
  have hbytes : utf8 s = utf8 s' := congrArg RawText.bytes h
  have hsome : some s = some s' := by rw [← Cbor.ofUtf8?_utf8, hbytes, Cbor.ofUtf8?_utf8]
  exact Option.some.inj hsome

/-- A weight is found by its name. -/
theorem CallValues.weight_eq {v : CallValues} {a s : String} (h : v.weights.lookup a = some s) :
    v.weight (.ofString a) = .ok s := by
  have hfind : v.weights.find? (fun w => RawText.ofString w.1 == RawText.ofString a) =
      some (a, s) := by
    obtain ⟨before, after, hsplit, hbefore⟩ := List.lookup_eq_some_iff.mp h
    refine List.find?_eq_some_iff_append.mpr ⟨by simp, before, after, hsplit, fun w hw => ?_⟩
    have hne : a ≠ w.1 := by simpa using hbefore w hw
    simpa using fun heq => hne (ofString_inj heq).symm
  rw [weight, hfind]

/-! ## Invocations -/

/-- A call of a kernel in generated code: what it is an instance for, and what it is given. -/
structure Invocation where
  kernel : String
  inputType : String
  outputType : String
  config : String
  buffers : List String
  weights : List String

/-- The text of an invocation. -/
def Invocation.text (c : Invocation) : String :=
  "nnet::" ++ c.kernel ++ "<" ++ ", ".intercalate [c.inputType, c.outputType, c.config] ++ ">(" ++
    ", ".intercalate (c.buffers ++ c.weights) ++ ");"

/-- The kernel of a variant. -/
def kernelName : Variant → KernelName
  | .dense => .plain "dense"
  | .conv1D => .formatted "conv_1d"
  | .conv2D => .formatted "conv_2d"
  | .separableConv1D => .formatted "separable_conv_1d"
  | .separableConv2D => .formatted "separable_conv_2d"
  | .lstm => .plain "lstm_stack"
  | .gru => .plain "gru_stack"
  | .multiHeadAttention => .plain "multiheadattention"
  | .pooling1D => .formatted "pooling1d"
  | .pooling2D => .formatted "pooling2d"
  | .globalPooling1D => .formatted "global_pooling1d"
  | .globalPooling2D => .formatted "global_pooling2d"

/-- The buffers of a node, in the order in which its kernel takes them. -/
def passedBuffers {α : Type} (v : Variant) (input output : α) : List α :=
  match v with
  | .multiHeadAttention => [input, input, output]
  | _ => [input, output]

/-- The weights of a variant, in the order in which its kernel takes them. -/
def passedWeights : Variant → List String
  | .dense | .conv1D | .conv2D => ["weight", "bias"]
  | .separableConv1D | .separableConv2D => ["depthwise", "pointwise", "bias"]
  | .lstm | .gru => ["weight", "recurrent_weight", "bias", "recurrent_bias"]
  | .multiHeadAttention =>
    ["attention_output_weight", "attention_output_bias", "key_weight", "key_bias", "query_weight",
     "query_bias", "value_weight", "value_bias"]
  | .pooling1D | .pooling2D | .globalPooling1D | .globalPooling2D => []

/-- A kernel is passed every declared weight once. -/
theorem passedWeights_perm (v : Variant) : (passedWeights v).Perm v.declaredWeights := by
  cases v <;> decide

theorem nodup_passedWeights (v : Variant) (i : Int64) :
    ((passedWeights v).map (weightSymbol i)).Nodup := by
  have hnodup : (passedWeights v).Nodup := by
    cases v <;> decide
  have hnames : ∀ a ∈ passedWeights v, a ∈ weightNames := fun a ha =>
    mem_weightNames ((passedWeights_perm v).mem_iff.mp ha)
  exact List.Nodup.map_on
    (fun a ha b hb h => (weightSymbol_inj (hnames a ha) (hnames b hb) h).1) hnodup

theorem builtinCall_eq (v : Variant) :
    builtinCall v = invocation (kernelName v)
      (passedBuffers v (value "Input") (value "Output") ++ (passedWeights v).map weight) := by
  cases v <;> rfl

/-- The invocation of a node with the short name of a channel order. -/
def Invocation.ofNode (n : Node) (tag : String) : Invocation where
  kernel := match kernelName n.variant with
    | .plain name => name
    | .formatted name => name ++ "_" ++ tag
  inputType := n.input.type
  outputType := n.output.type
  config := configSymbol n.index
  buffers := passedBuffers n.variant n.input.var n.output.var
  weights := (passedWeights n.variant).map (weightSymbol n.index)

/-! ## Texts -/

section Texts

variable {resolve : Resolver}

theorem render_append {t u : Template} {s s' : String} (ht : render resolve t = .ok s)
    (hu : render resolve u = .ok s') : render resolve (t ++ u) = .ok (s ++ s') :=
  render_append_eq_ok.mpr ⟨s, s', ht, hu, rfl⟩

theorem render_literal (text : String) : render resolve [.literal text] = .ok text :=
  render_cons_eq_ok.mpr ⟨text, "", rfl, rfl, String.append_empty.symm⟩

theorem render_commaSeparated {ps : List Piece} {texts : List String}
    (h : List.Forall₂ (fun p s => p.text resolve = .ok s) ps texts) :
    render resolve (commaSeparated ps) = .ok (", ".intercalate texts) := by
  induction h with
  | nil => rfl
  | @cons p s ps texts hs hrest ih =>
    cases hrest with
    | nil =>
      rw [String.intercalate_singleton]
      exact render_cons_eq_ok.mpr ⟨s, "", hs, rfl, String.append_empty.symm⟩
    | cons hs' hrest' =>
      rw [String.intercalate_cons_cons, String.append_assoc]
      exact render_cons_eq_ok.mpr ⟨s, _, hs, render_cons_eq_ok.mpr ⟨", ", _, rfl, ih, rfl⟩, rfl⟩

end Texts

theorem forall₂_passedBuffers {α β : Type} {R : α → β → Prop} (v : Variant) {a c : α} {b d : β}
    (hab : R a b) (hcd : R c d) :
    List.Forall₂ R (passedBuffers v a c) (passedBuffers v b d) := by
  unfold passedBuffers
  split
  · exact .cons hab (.cons hab (.cons hcd .nil))
  · exact .cons hab (.cons hcd .nil)

/-- **The text of an invocation** passes the buffers of the node and the symbols of its weights. -/
theorem render_builtinCall (n : Node) (tag : String) :
    render (CallValues.ofNode n tag).resolve (builtinCall n.variant) =
      .ok (Invocation.ofNode n tag).text := by
  have hkernel : render (CallValues.ofNode n tag).resolve (kernelName n.variant).pieces =
      .ok ("nnet::" ++ (Invocation.ofNode n tag).kernel) := by
    unfold Invocation.ofNode
    cases kernelName n.variant with
    | plain name => exact render_literal _
    | formatted name =>
      refine render_cons_eq_ok.mpr ⟨_, tag, rfl, ?_, ?_⟩
      · exact render_cons_eq_ok.mpr ⟨tag, "", rfl, rfl, String.append_empty.symm⟩
      · simp only [String.append_assoc]
  have hweights : List.Forall₂ (fun p s => p.text (CallValues.ofNode n tag).resolve = .ok s)
      ((passedWeights n.variant).map weight)
      ((passedWeights n.variant).map (weightSymbol n.index)) := by
    rw [List.forall₂_map_left_iff, List.forall₂_map_right_iff, List.forall₂_same]
    intro a ha
    have hdeclared := (passedWeights_perm n.variant).mem_iff.mp ha
    exact CallValues.weight_eq (lookup_weightSymbols hdeclared n.index)
  have hbuffers : List.Forall₂ (fun p s => p.text (CallValues.ofNode n tag).resolve = .ok s)
      (passedBuffers n.variant (value "Input") (value "Output"))
      (Invocation.ofNode n tag).buffers := forall₂_passedBuffers n.variant rfl rfl
  have htypes : render (CallValues.ofNode n tag).resolve
      (commaSeparated [value "InputType", value "OutputType", value "Config"]) =
      .ok (", ".intercalate [n.input.type, n.output.type, configSymbol n.index]) :=
    render_commaSeparated (.cons rfl (.cons rfl (.cons rfl .nil)))
  have hargs := render_commaSeparated (List.rel_append hbuffers hweights)
  -- The parts of the call, in the order in which `Invocation.text` puts them together.
  rw [builtinCall_eq]
  exact render_append (render_append (render_append (render_append (render_append hkernel
    (render_literal "<")) htypes) (render_literal ">(")) hargs) (render_literal ");")

/-- **The text of a config block** defines the struct with the symbol of the node, with the text of
its lines. -/
theorem exists_render_config {n : Node} {kernel : String} {lines : List Template} {text : String}
    (h : render (ConfigValues.ofNode n).resolve (configBlock kernel lines) = .ok text) :
    ∃ body, render (ConfigValues.ofNode n).resolve lines.flatten = .ok body ∧
      text = "struct " ++ configSymbol n.index ++ " : nnet::" ++ kernel ++ "_config \x7b\n" ++
        body ++ "\x7d;\n" := by
  obtain ⟨front, last, hfront, hlast, rfl⟩ := render_append_eq_ok.mp h
  obtain ⟨head, body, hhead, hbody, rfl⟩ := render_append_eq_ok.mp hfront
  obtain rfl := Except.ok.inj ((render_literal _).symm.trans hlast)
  obtain ⟨_, _, hstruct, hnamed, rfl⟩ := render_cons_eq_ok.mp hhead
  obtain ⟨_, _, hindex, hbase, rfl⟩ := render_cons_eq_ok.mp hnamed
  obtain rfl := Except.ok.inj hstruct
  obtain rfl := Except.ok.inj hindex
  obtain rfl := Except.ok.inj ((render_literal _).symm.trans hbase)
  refine ⟨body, hbody, ?_⟩
  have hsymbol : "struct config" ++ decimal n.index = "struct " ++ configSymbol n.index := by
    rw [configSymbol, ← String.append_assoc]
    rfl
  simp only [← hsymbol, ConfigValues.ofNode, String.append_assoc]

end LayerCode.Template
