import LayerCode.Proofs.Template.Symbols
import LayerCode.Proofs.Text.Words
import LayerCode.Target

/-!
# Which symbols a text names

A text names the symbols that are words of it. A symbol starts like a name and ends in a digit, and
the fixed words of the kernel library's templates do not. So a config block names the symbol of its
node, and an invocation that symbol and those of the node's weights; any other symbol in them comes
from the node, which says freely what its ports and its strategy are called.

* `IsSymbol`, `IsSymbol.numbered`, `words_of_isSymbol`: symbols;
* `NamesOnly`, `namesOnly_attributeText`: texts that name few symbols, as values do;
* `PlainLine`, **`namesOnly_config`**: the symbols in a config block, line by line;
* `nodeSymbols`, `portWords`, **`count_words_call`**: the symbols in an invocation.
-/

namespace LayerCode.Template

open Text Outcome

/-! ## Symbols -/

/-- The text is the symbol of a config block or of a weight. -/
def IsSymbol (s : String) : Prop :=
  ∃ i, s = configSymbol i ∨ ∃ a ∈ weightNames, s = weightSymbol i a

/-- The text starts with a character that stands in no number, and ends in a digit. -/
def numbered (s : String) : Bool :=
  s.toList.head?.any (!inNumber ·) && s.toList.getLast?.any Char.isDigit

/-- The text is a word that a symbol can start with. -/
def isStem (s : String) : Bool :=
  !s.isEmpty && s.toList.all fun c => inWord c && !inNumber c

theorem numbered_append_decimal {s : String} (hs : isStem s = true) (i : Int64) :
    numbered (s ++ decimal i) = true := by
  simp only [isStem, Bool.and_eq_true, List.all_eq_true, Bool.not_eq_true'] at hs
  obtain ⟨hne, hall⟩ := hs
  have hnil : s.toList ≠ [] := by simpa using hne
  obtain ⟨c, hlast, hdigit⟩ := exists_getLast?_decimal i
  have hfirst := (hall _ (List.head_mem hnil)).2
  rw [numbered, String.toList_append, List.head?_append, List.head?_eq_some_head hnil,
    List.getLast?_append, hlast]
  simp [hfirst, hdigit]

theorem words_append_decimal {s : String} (hs : isStem s = true) (i : Int64) :
    words (s ++ decimal i) = [s ++ decimal i] := by
  simp only [isStem, Bool.and_eq_true, List.all_eq_true] at hs
  refine words_of_word ?_ fun hempty => ?_
  · rw [String.toList_append, List.all_append, Bool.and_eq_true, List.all_eq_true, List.all_eq_true]
    exact ⟨fun c hc => (hs.2 c hc).1, fun c hc =>
      inWord_of_inNumber (List.all_eq_true.mp (all_inNumber_decimal i) c hc)⟩
  · have hchars := congrArg String.toList hempty
    rw [String.toList_append, String.toList_empty] at hchars
    exact decimal_ne_nil i (List.append_eq_nil_iff.mp hchars).2

theorem isStem_symbolStem {a : String} (ha : a ∈ weightNames) : isStem (symbolStem a) = true := by
  have hall : ∀ a ∈ weightNames, isStem (symbolStem a) = true := by
    decide +kernel
  exact hall a ha

theorem IsSymbol.numbered {s : String} (h : IsSymbol s) : numbered s = true := by
  obtain ⟨i, rfl | ⟨a, ha, rfl⟩⟩ := h
  · exact numbered_append_decimal rfl i
  · exact numbered_append_decimal (isStem_symbolStem ha) i

/-- A symbol is one word. -/
theorem words_of_isSymbol {s : String} (h : IsSymbol s) : words s = [s] := by
  obtain ⟨i, rfl | ⟨a, ha, rfl⟩⟩ := h
  · exact words_append_decimal rfl i
  · exact words_append_decimal (isStem_symbolStem ha) i

/-! ## Texts that name few symbols -/

/-- Every symbol that the text names is an allowed word. -/
def NamesOnly (allowed : List String) (s : String) : Prop :=
  ∀ w ∈ words s, numbered w = true → w ∈ allowed

instance (allowed : List String) (s : String) : Decidable (NamesOnly allowed s) :=
  inferInstanceAs (Decidable (∀ w ∈ words s, numbered w = true → w ∈ allowed))

variable {allowed : List String}

/-- A text that names no symbol. -/
theorem NamesOnly.mono {s : String} (h : NamesOnly [] s) : NamesOnly allowed s :=
  fun w hw hnumbered => absurd (h w hw hnumbered) List.not_mem_nil

theorem NamesOnly.append {s t : String} (hs : NamesOnly allowed s) (ht : NamesOnly allowed t)
    (h : endsBroken s = true ∨ startsBroken t = true) : NamesOnly allowed (s ++ t) := by
  intro w hw
  rw [words_append h, List.mem_append] at hw
  exact hw.elim (hs w) (ht w)

theorem namesOnly_of_number {s : String} (h : s.toList.all inNumber = true) :
    NamesOnly allowed s := by
  intro w hw hnumbered
  -- The word starts like a number, and a symbol does not.
  obtain ⟨c, hhead, hc⟩ := (Option.any_eq_true _ _).mp (mem_words_of_number h hw)
  rw [numbered, hhead, Bool.and_eq_true] at hnumbered
  simp [hc] at hnumbered

theorem namesOnly_poolOp (p : PoolOp) : NamesOnly allowed p.name := by
  unfold PoolOp.name
  split
  · exact .mono (by decide)
  split
  · exact .mono (by decide)
  have hcode : NamesOnly allowed p.code.toNat.repr := namesOnly_of_number (all_inNumber_repr _)
  have hopen : NamesOnly allowed ("PoolOp(" ++ p.code.toNat.repr) :=
    .append (.mono (by decide)) hcode (.inl rfl)
  exact hopen.append (.mono (by decide)) (.inr rfl)

theorem namesOnly_fieldText (v : FieldValue) : NamesOnly allowed (fieldText v) := by
  cases v with
  | count n => exact namesOnly_of_number (all_inNumber_decimal n)
  | flag b => cases b <;> exact .mono (by decide)
  | poolOp p => exact namesOnly_poolOp p
  | dataFormat f =>
    show NamesOnly allowed f.name
    unfold DataFormat.name
    split <;> exact .mono (by decide)

theorem namesOnly_attributeText {attrs : Option Attributes} {symbol text : String}
    (h : attributeText attrs symbol = .ok text) : NamesOnly allowed text := by
  unfold attributeText at h
  split at h
  · exact absurd h (by simp)
  split at h
  · next f _ =>
    obtain rfl := Except.ok.inj h
    exact namesOnly_fieldText f.value
  split at h
  · next f _ _ =>
    obtain rfl := Except.ok.inj h
    exact namesOnly_fieldText (.dataFormat f)
  · exact absurd h (by simp)

/-! ## Config blocks -/

/-- The text of the line ends at a break, and names the allowed words only. -/
def PlainLine (allowed : List String) (v : ConfigValues) (line : Template) : Prop :=
  ∀ text, render v.resolve line = .ok text → endsBroken text = true ∧ NamesOnly allowed text

section Lines

variable {v : ConfigValues}

theorem plainLine_setting {type name qualifier : String} {p : Piece}
    (htype : NamesOnly [] type) (hname : NamesOnly [] name)
    (hqualifier : qualifier = "" ∨ qualifier = "nnet::")
    (hp : ∀ s, p.text v.resolve = .ok s → NamesOnly allowed s) :
    PlainLine allowed v (setting type name qualifier p) := by
  intro text h
  obtain ⟨_, _, hfront, hrest, rfl⟩ := render_cons_eq_ok.mp h
  obtain ⟨s, _, hs, hlast, rfl⟩ := render_cons_eq_ok.mp hrest
  obtain rfl := Except.ok.inj hfront
  obtain rfl := Except.ok.inj ((render_literal _).symm.trans hlast)
  have hvalue : NamesOnly allowed (s ++ ";\n") := (hp s hs).append (.mono (by decide)) (.inr rfl)
  have hstatic : NamesOnly allowed ("    static const " ++ type) :=
    .append (.mono (by decide)) htype.mono (.inl rfl)
  have hblank : NamesOnly allowed ("    static const " ++ type ++ " ") :=
    hstatic.append (.mono (by decide)) (.inr rfl)
  have hnamed : NamesOnly allowed ("    static const " ++ type ++ " " ++ name) :=
    hblank.append hname.mono (.inl (endsBroken_append rfl))
  have hequals : NamesOnly allowed ("    static const " ++ type ++ " " ++ name ++ " = ") :=
    hnamed.append (.mono (by decide)) (.inr rfl)
  refine ⟨endsBroken_append (endsBroken_append rfl), ?_⟩
  rcases hqualifier with rfl | rfl
  · rw [String.append_empty]
    exact hequals.append hvalue (.inl (endsBroken_append rfl))
  · exact (hequals.append (.mono (by decide)) (.inl (endsBroken_append rfl))).append hvalue
      (.inl (endsBroken_append rfl))

theorem plainLine_number {name : String} (hname : NamesOnly [] name) (symbol : String) :
    PlainLine allowed v (number name symbol) :=
  plainLine_setting (by decide) hname (.inl rfl) fun _ => namesOnly_attributeText

theorem plainLine_returnSequences :
    PlainLine allowed v (setting "bool" "return_sequences" "" (attr "ReturnSequences")) :=
  plainLine_setting (by decide) (by decide) (.inl rfl) fun _ => namesOnly_attributeText

theorem plainLine_poolOp : PlainLine allowed v poolOpSetting :=
  plainLine_setting (by decide) (by decide) (.inr rfl) fun _ => namesOnly_attributeText

theorem plainLine_reuseFactor : PlainLine allowed v reuseFactorSetting := by
  refine plainLine_setting (by decide) (by decide) (.inl rfl) fun s hs => ?_
  obtain rfl := Except.ok.inj hs
  exact namesOnly_of_number (all_inNumber_decimal _)

theorem plainLine_gap : PlainLine allowed v gap := by
  intro text h
  obtain rfl := Except.ok.inj ((render_literal _).symm.trans h)
  exact ⟨rfl, .mono (by decide)⟩

theorem plainLine_strategy (h : words v.strategy ⊆ allowed) :
    PlainLine allowed v strategySetting := by
  refine plainLine_setting (by decide) (by decide) (.inr rfl) fun s hs w hw _ => ?_
  obtain rfl := Except.ok.inj hs
  exact h hw

theorem namesOnly_flatten {lines : List Template} (h : ∀ line ∈ lines, PlainLine allowed v line)
    {text : String} (htext : render v.resolve lines.flatten = .ok text) :
    NamesOnly allowed text := by
  induction lines generalizing text with
  | nil =>
    obtain rfl : "" = text := Except.ok.inj htext
    exact .mono (by decide)
  | cons line lines ih =>
    rw [List.forall_mem_cons] at h
    obtain ⟨s, rest, hs, hrest, rfl⟩ := render_append_eq_ok.mp htext
    obtain ⟨hends, hline⟩ := h.1 s hs
    exact hline.append (ih h.2 hrest) (.inl hends)

end Lines

theorem builtinConfig_eq_configBlock (variant : Variant) : ∃ kernel lines,
    builtinConfig variant = configBlock kernel lines ∧
      NamesOnly [] (" : nnet::" ++ kernel ++ "_config \x7b\n") ∧
      ∀ allowed v, words v.strategy ⊆ allowed → ∀ line ∈ lines, PlainLine allowed v line := by
  cases variant
  all_goals
    refine ⟨_, _, rfl, by decide +kernel, fun allowed v hv => ?_⟩
    simp (disch := decide +kernel) only [List.forall_mem_cons, plainLine_number,
      plainLine_returnSequences, plainLine_poolOp, plainLine_reuseFactor, plainLine_gap,
      plainLine_strategy hv, List.not_mem_nil, false_implies, implies_true, and_self]

/-- **A config block names the symbol of its node, and what the strategy names.** -/
theorem namesOnly_config {n : Node} {text : String}
    (h : render (ConfigValues.ofNode n).resolve (builtinConfig n.variant) = .ok text) :
    NamesOnly (configSymbol n.index :: words (strategyText n.strategy)) text := by
  obtain ⟨kernel, lines, hblock, hhead, hlines⟩ := builtinConfig_eq_configBlock n.variant
  rw [hblock] at h
  obtain ⟨body, hrender, rfl⟩ := exists_render_config h
  generalize hallowed : configSymbol n.index :: words (strategyText n.strategy) = allowed
  have hbody : NamesOnly allowed body := by
    refine namesOnly_flatten (hlines allowed _ ?_) hrender
    rw [← hallowed]
    exact List.subset_cons_self _ _
  have hsymbol : NamesOnly allowed (configSymbol n.index) := by
    intro w hw _
    rw [words_of_isSymbol ⟨_, .inl rfl⟩, List.mem_singleton] at hw
    rw [hw, ← hallowed]
    exact List.mem_cons_self
  have htext : "struct " ++ configSymbol n.index ++ " : nnet::" ++ kernel ++ "_config \x7b\n" ++
      body ++ "\x7d;\n" = "struct " ++ configSymbol n.index ++
        (" : nnet::" ++ kernel ++ "_config \x7b\n") ++ body ++ "\x7d;\n" := by
    simp only [String.append_assoc]
  have hstruct : NamesOnly allowed ("struct " ++ configSymbol n.index) :=
    .append (.mono (by decide)) hsymbol (.inl rfl)
  have hnamed := hstruct.append hhead.mono (.inr (startsBroken_append (startsBroken_append rfl)))
  have hopen := hnamed.append hbody (.inl (endsBroken_append (endsBroken_append rfl)))
  rw [htext]
  exact hopen.append (.mono (by decide)) (.inr rfl)

/-! ## Invocations -/

/-- The words of an invocation. -/
theorem words_text (c : Invocation) :
    words c.text = "nnet" :: (words c.kernel ++ (words c.inputType ++ words c.outputType ++
      words c.config) ++ (c.buffers ++ c.weights).flatMap words) := by
  have hkernel : words ("nnet::" ++ c.kernel) = "nnet" :: words c.kernel := by
    rw [words_append (.inl rfl)]
    rfl
  have hclose : words ");" = [] := by decide
  rw [Invocation.text, words_append (.inr rfl), hclose, words_append_append rfl,
    words_append_append rfl, hkernel, words_intercalate, words_intercalate]
  simp

/-- The symbols among the values of an invocation: that of the config block and those of the
weights. -/
def CallValues.symbols (v : CallValues) : List String := v.config :: v.weights.map Prod.snd

/-- The symbols of a node: that of its config block and those of its weights. -/
def nodeSymbols (n : Node) : List String :=
  configSymbol n.index :: (weightSymbols n.variant n.index).map Prod.snd

/-- The words of the types and the names of a node's ports, as often as an invocation has them. -/
def portWords (n : Node) : List String :=
  words n.input.type ++ words n.output.type ++
    (passedBuffers n.variant n.input.var n.output.var).flatMap words

/-- The words that a node brings into its code: those of its ports and of its strategy. -/
def ownWords (n : Node) : List String := portWords n ++ words (strategyText n.strategy)

theorem configSymbol_ne_weightSymbol {a : String} (ha : a ∈ weightNames) (i j : Int64) :
    configSymbol i ≠ weightSymbol j a := by
  intro h
  have hstem : ∀ a ∈ weightNames, "config" ≠ symbolStem a := by
    decide +kernel
  exact hstem a ha (append_decimal_inj (by decide) (symbolStem_letters ha) h).1

theorem perm_nodeSymbols (n : Node) (tag : String) :
    ((Invocation.ofNode n tag).config :: (Invocation.ofNode n tag).weights).Perm
      (nodeSymbols n) := by
  have hsymbols : (weightSymbols n.variant n.index).map Prod.snd =
      n.variant.declaredWeights.map (weightSymbol n.index) := by
    simp [weightSymbols]
  rw [nodeSymbols, hsymbols]
  exact ((passedWeights_perm n.variant).map _).cons _

theorem mem_nodeSymbols {n : Node} {s : String} : s ∈ nodeSymbols n ↔
    s = configSymbol n.index ∨ ∃ a ∈ n.variant.declaredWeights, s = weightSymbol n.index a := by
  simp [nodeSymbols, weightSymbols, eq_comm]

theorem isSymbol_of_mem_nodeSymbols {n : Node} {s : String} (h : s ∈ nodeSymbols n) :
    IsSymbol s := by
  rcases mem_nodeSymbols.mp h with rfl | ⟨a, ha, rfl⟩
  · exact ⟨n.index, .inl rfl⟩
  · exact ⟨n.index, .inr ⟨a, mem_weightNames ha, rfl⟩⟩

/-- **Nodes with a symbol in common have the same index.** -/
theorem index_eq_of_mem_nodeSymbols {n m : Node} {s : String} (hn : s ∈ nodeSymbols n)
    (hm : s ∈ nodeSymbols m) : n.index = m.index := by
  rw [mem_nodeSymbols] at hn hm
  rcases hn with rfl | ⟨a, ha, rfl⟩ <;> rcases hm with hm | ⟨b, hb, hm⟩
  · exact configSymbol_inj hm
  · exact absurd hm (configSymbol_ne_weightSymbol (mem_weightNames hb) _ _)
  · exact absurd hm.symm (configSymbol_ne_weightSymbol (mem_weightNames ha) _ _)
  · exact (weightSymbol_inj (mem_weightNames ha) (mem_weightNames hb) hm).2

theorem nodup_nodeSymbols (n : Node) : (nodeSymbols n).Nodup := by
  rw [← (perm_nodeSymbols n "").nodup_iff, List.nodup_cons]
  refine ⟨fun h => ?_, nodup_passedWeights n.variant n.index⟩
  obtain ⟨a, ha, hsymbol⟩ := List.mem_map.mp h
  have hname := mem_weightNames ((passedWeights_perm n.variant).mem_iff.mp ha)
  exact configSymbol_ne_weightSymbol hname _ _ hsymbol.symm

theorem namesOnly_kernel (n : Node) (order : ChannelOrder) :
    NamesOnly [] (Invocation.ofNode n order.tag).kernel := by
  dsimp only [Invocation.ofNode]
  cases n.variant <;> cases order <;> decide +kernel

/-- **An invocation names every symbol of its node once**, and no other one, besides those that the
ports of the node name. -/
theorem count_words_call (n : Node) (order : ChannelOrder) {s : String} (hs : IsSymbol s) :
    (words (Invocation.ofNode n order.tag).text).count s =
      (portWords n).count s + if s ∈ nodeSymbols n then 1 else 0 := by
  generalize hc : Invocation.ofNode n order.tag = c
  have hperm : (c.config :: c.weights).Perm (nodeSymbols n) := hc ▸ perm_nodeSymbols n order.tag
  have hword : ∀ w ∈ c.config :: c.weights, words w = [w] :=
    fun w hw => words_of_isSymbol (isSymbol_of_mem_nodeSymbols (hperm.mem_iff.mp hw))
  have hweights : c.weights.flatMap words = c.weights := by
    calc c.weights.flatMap words = c.weights.flatMap fun w => [w] :=
        List.flatMap_congr fun w hw => hword w (List.mem_cons_of_mem _ hw)
      _ = c.weights := by simp
  have hkernel : (words c.kernel).count s = 0 := by
    have hnone : NamesOnly [] c.kernel := hc ▸ namesOnly_kernel n order
    exact List.count_eq_zero.mpr fun hmem => List.not_mem_nil (hnone s hmem hs.numbered)
  have hnnet : s ≠ "nnet" := by
    rintro rfl
    exact absurd hs.numbered (by decide)
  have hports : portWords n =
      words c.inputType ++ words c.outputType ++ c.buffers.flatMap words := by
    rw [← hc]
    rfl
  calc (words c.text).count s
      = (portWords n).count s + (c.config :: c.weights).count s := by
        rw [words_text, hports, List.flatMap_append, hweights, hword _ List.mem_cons_self,
          List.count_cons_of_ne hnnet.symm]
        simp only [List.count_append, hkernel, List.count_cons, List.count_nil]
        omega
    _ = (portWords n).count s + (nodeSymbols n).count s := by rw [hperm.count_eq]
    _ = (portWords n).count s + if s ∈ nodeSymbols n then 1 else 0 := by
        rw [(nodup_nodeSymbols n).count]

end LayerCode.Template
