import Mathlib.Data.List.Forall2
import LayerCode.Pass.Resource
import LayerCode.Proofs.Template.Readable
import LayerCode.Proofs.Template.Renders
import LayerCode.Proofs.Text.Listing

/-!
# The strategy in a config block

The config block of a layer that can have the resource strategy ends with the line that sets the
strategy. All lines before it are made of fixed text, numbers and switches, so the first label in
the block is the one of that line, and what stands behind it is the strategy of the node.

* `printedStrategy?`: the strategy that a config block sets;
* `misses`, `valueAfter?_append`: text that the search for a label passes over;
* `quiet`, `misses_quiet`: the pieces of a template whose text is passed over;
* **`printedStrategy?_config`**: the strategy that the block of a node sets.
-/

namespace LayerCode.Template

open Text Outcome

/-! ## Searching a block -/

/-- What stands behind the first label in a text. -/
def valueAfter? (label : List Char) : List Char → Option (List Char)
  | [] => none
  | c :: cs =>
    if label.isPrefixOf (c :: cs) then some ((c :: cs).drop label.length) else valueAfter? label cs

/-- What a line starts with when it sets the strategy. -/
def strategyLabel : List Char := "strategy = ".toList

/-- What stands behind the strategy, which is the last constant of a block. -/
def blockEnd : List Char := ";\n\x7d;\n".toList

/-- The strategy that a config block sets, with its qualifier. -/
def printedStrategy? (config : String) : Option String :=
  (valueAfter? strategyLabel config.toList).map fun rest =>
    String.ofList (rest.take (rest.length - blockEnd.length))

/-- No place of the text can be the start of the label, whatever follows the text. -/
def misses (label : List Char) : List Char → Bool
  | [] => true
  | c :: cs =>
    !(c :: cs).isPrefixOf label && !label.isPrefixOf (c :: cs) && misses label cs

theorem not_prefix_append {label text : List Char} (hshort : ¬ text <+: label)
    (hlong : ¬ label <+: text) (more : List Char) : ¬ label <+: text ++ more := by
  intro hlabel
  rcases List.prefix_or_prefix_of_prefix hlabel (List.prefix_append text more) with hp | hp
  · exact hlong hp
  · exact hshort hp

theorem valueAfter?_append {label text : List Char} (h : misses label text = true)
    (rest : List Char) : valueAfter? label (text ++ rest) = valueAfter? label rest := by
  induction text with
  | nil => rfl
  | cons c cs ih =>
    simp only [misses, Bool.and_eq_true, Bool.not_eq_true', ← Bool.not_eq_true,
      List.isPrefixOf_iff_prefix] at h
    obtain ⟨⟨hshort, hlong⟩, hcs⟩ := h
    have hno : ¬ label.isPrefixOf (c :: (cs ++ rest)) = true := by
      rw [List.isPrefixOf_iff_prefix]
      exact not_prefix_append hshort hlong rest
    rw [List.cons_append, valueAfter?, if_neg hno, ih hcs]

theorem valueAfter?_label {l : Char} {label rest : List Char} :
    valueAfter? (l :: label) (l :: label ++ rest) = some rest := by
  have hprefix : (l :: label).isPrefixOf (l :: (label ++ rest)) = true := by
    rw [List.isPrefixOf_iff_prefix]
    exact List.prefix_append (l :: label) rest
  rw [List.cons_append, valueAfter?, if_pos hprefix, ← List.cons_append, List.drop_left]

theorem misses_append {label text more : List Char} (h : misses label text = true)
    (h' : misses label more = true) : misses label (text ++ more) = true := by
  induction text with
  | nil => exact h'
  | cons c cs ih =>
    simp only [List.cons_append, misses, Bool.and_eq_true, Bool.not_eq_true', ← Bool.not_eq_true,
      List.isPrefixOf_iff_prefix] at h ⊢
    obtain ⟨⟨hshort, hlong⟩, hcs⟩ := h
    refine ⟨⟨fun hp => ?_, not_prefix_append hshort hlong more⟩, ih hcs⟩
    exact hshort ((List.prefix_append (c :: cs) more).trans hp)

theorem valueAfter?_flatMap {label : List Char} {texts : List String}
    (h : ∀ t ∈ texts, misses label t.toList = true) (rest : List Char) :
    valueAfter? label (texts.flatMap String.toList ++ rest) = valueAfter? label rest := by
  induction texts with
  | nil => rfl
  | cons t ts ih =>
    rw [List.flatMap_cons, List.append_assoc, valueAfter?_append (h t List.mem_cons_self),
      ih fun u hu => h u (List.mem_cons_of_mem t hu)]

/-- Text without the first letter of a label is passed over. -/
theorem misses_of_not_mem {l : Char} {label text : List Char} (h : l ∉ text) :
    misses (l :: label) text = true := by
  induction text with
  | nil => rfl
  | cons c cs ih =>
    rw [List.mem_cons, not_or] at h
    simp [misses, List.isPrefixOf, h.1, Ne.symm h.1, ih h.2]

/-! ## Quiet pieces -/

theorem not_mem_decimal (n : Int64) : 's' ∉ (decimal n).toList := by
  intro h
  rcases mem_decimal h with h | h
  · exact absurd h (by decide)
  · exact absurd h (by decide)

theorem strategyLabel_eq : strategyLabel = 's' :: "trategy = ".toList := by
  decide

theorem misses_decimal (n : Int64) : misses strategyLabel (decimal n).toList = true := by
  rw [strategyLabel_eq]
  exact misses_of_not_mem (not_mem_decimal n)

/-- The text of a number or of a switch is passed over. -/
theorem misses_fieldText {v : FieldValue} (hp : ∀ p, v ≠ .poolOp p) (hf : ∀ f, v ≠ .dataFormat f) :
    misses strategyLabel (fieldText v).toList = true := by
  cases v with
  | count n => exact misses_decimal n
  | flag b => cases b <;> decide +kernel
  | poolOp p => exact absurd rfl (hp p)
  | dataFormat f => exact absurd rfl (hf f)

/-- A field with a named option has the symbol of that option. -/
def properSymbol (f : Field) : Bool :=
  match f.value with
  | .poolOp _ => f.symbol == "PoolOp"
  | .dataFormat _ => f.symbol == "DataFormat"
  | _ => true

theorem properSymbol_of_mem {a : Attributes} {f : Field} (h : f ∈ a.fields) :
    properSymbol f = true := by
  have hall : a.fields.all properSymbol = true := by cases a <;> rfl
  exact List.all_eq_true.mp hall f h

theorem misses_attributeText {attrs : Option Attributes} {symbol text : String}
    (hs : symbol ∉ ["PoolOp", "DataFormat", "Format"])
    (h : attributeText attrs symbol = .ok text) : misses strategyLabel text.toList = true := by
  simp only [List.mem_cons, List.not_mem_nil, or_false, not_or] at hs
  cases attrs with
  | none => exact absurd h (by simp [attributeText])
  | some a =>
    obtain ⟨f, hmem, hsymbol, rfl⟩ := exists_mem_of_attributeText hs.2.2 h
    have hproper := properSymbol_of_mem hmem
    refine misses_fieldText (fun p hv => ?_) fun o hv => ?_
    · simp only [properSymbol, hv, hsymbol] at hproper
      exact hs.1 (eq_of_beq hproper)
    · simp only [properSymbol, hv, hsymbol] at hproper
      exact hs.2.1 (eq_of_beq hproper)

/-- The text of the piece, in a config block, is passed over. -/
def quiet : Piece → Bool
  | .literal text => misses strategyLabel text.toList
  | .lookup ["Index"] [] => true
  | .lookup ["ReuseFactor"] [] => true
  | .lookup ["Attrs", symbol] [] => symbol ∉ ["PoolOp", "DataFormat", "Format"]
  | .lookup _ _ => false

/-- The text of a piece. -/
def pieceText (v : ConfigValues) : Piece → Except Cause String
  | .literal text => .ok text
  | .lookup path args => v.resolve path args

theorem misses_quiet {v : ConfigValues} {p : Piece} (hq : quiet p = true) {text : String}
    (h : pieceText v p = .ok text) : misses strategyLabel text.toList = true := by
  unfold quiet at hq
  split at hq
  · obtain rfl := Except.ok.inj h
    exact hq
  · obtain rfl := Except.ok.inj h
    exact misses_decimal _
  · obtain rfl := Except.ok.inj h
    exact misses_decimal _
  · exact misses_attributeText (of_decide_eq_true hq) h
  · exact absurd hq (by simp)

/-! ## Config blocks -/

theorem render_eq_ok {v : ConfigValues} {t : Template} {text : String}
    (h : render v.resolve t = .ok text) :
    ∃ texts, List.Forall₂ (fun p s => pieceText v p = .ok s) t texts ∧
      text = String.join texts := by
  obtain ⟨texts, hmap, htext⟩ := bind_eq_ok.mp h
  refine ⟨texts, (mapM_eq_ok_iff.mp hmap).imp fun p s hps => ?_, (Except.ok.inj htext).symm⟩
  cases p with
  | literal text => exact hps
  | lookup path args => exact hps

/-- The end of the block of a layer that can have the resource strategy. -/
def strategyEnd : Template := strategySetting ++ [.literal "\x7d;\n"]

/-- All pieces of the template are quiet. -/
def Quiet (t : Template) : Prop := ∀ p ∈ t, quiet p = true

theorem quiet_setting {type name : String} {v : Piece} (ht : type = "unsigned" ∨ type = "bool")
    (hn : misses strategyLabel (name.toList ++ " = ".toList) = true) (hv : quiet v = true) :
    Quiet (setting type name "" v) := by
  have htype :
      misses strategyLabel ("    static const ".toList ++ type.toList ++ " ".toList) = true := by
    rcases ht with rfl | rfl <;> decide +kernel
  have hline :
      quiet (.literal ("    static const " ++ type ++ " " ++ name ++ " = " ++ "")) = true := by
    have := misses_append htype hn
    simpa [quiet, String.toList_append, List.append_assoc] using this
  have hend : quiet (.literal ";\n") = true := by decide +kernel
  simp only [Quiet, setting, List.forall_mem_cons]
  exact ⟨hline, hv, hend, fun _ h => absurd h List.not_mem_nil⟩

/-- A line that sets a number of the attribute record is quiet. -/
theorem quiet_number {name symbol : String}
    (hn : misses strategyLabel (name.toList ++ " = ".toList) = true)
    (hs : symbol ∉ ["PoolOp", "DataFormat", "Format"]) : Quiet (number name symbol) :=
  quiet_setting (.inl rfl) hn (decide_eq_true hs)

theorem quiet_reuseFactor : Quiet reuseFactorSetting :=
  quiet_setting (.inl rfl) (by decide +kernel) rfl

theorem quiet_returnSequences :
    Quiet (setting "bool" "return_sequences" "" (attr "ReturnSequences")) :=
  quiet_setting (.inr rfl) (by decide +kernel) (by decide)

/-- A block of quiet lines that ends with the strategy. -/
theorem configBlock_eq {kernel : String} {lines : List Template}
    (hk : misses strategyLabel (" : nnet::" ++ kernel ++ "_config \x7b\n").toList = true)
    (hlast : lines.getLast? = some strategySetting) (hl : ∀ l ∈ lines.dropLast, Quiet l) :
    ∃ pieces, configBlock kernel lines = pieces ++ strategyEnd ∧ Quiet pieces := by
  obtain ⟨lines, rfl⟩ := List.getLast?_eq_some_iff.mp hlast
  rw [List.dropLast_concat] at hl
  refine ⟨[.literal "struct config", value "Index",
    .literal (" : nnet::" ++ kernel ++ "_config \x7b\n")] ++ lines.flatten, ?_, fun p hp => ?_⟩
  · simp [configBlock, strategyEnd]
  · rcases List.mem_append.mp hp with hp | hp
    · simp only [List.mem_cons, List.not_mem_nil, or_false] at hp
      rcases hp with rfl | rfl | rfl
      · exact show quiet (.literal "struct config") = true by decide +kernel
      · rfl
      · exact hk
    · obtain ⟨l, hmem, hpl⟩ := List.mem_flatten.mp hp
      exact hl l hmem p hpl

/-- The block of a layer that can have the resource strategy ends with the line that sets it, and
the pieces before it are quiet. -/
theorem builtinConfig_eq {v : Variant} (h : v.resourceRules.isSome = true) :
    ∃ pieces, builtinConfig v = pieces ++ strategyEnd ∧ Quiet pieces := by
  cases v
  case pooling1D | pooling2D | globalPooling1D | globalPooling2D => exact absurd h (by decide)
  all_goals
    refine configBlock_eq (by decide +kernel) rfl ?_
    simp (disch := decide +kernel) only [List.dropLast, List.forall_mem_cons, quiet_number,
      quiet_reuseFactor, quiet_returnSequences, List.not_mem_nil, false_implies, implies_true,
      and_self]

/-- The texts of the end of a block. -/
theorem strategyEnd_texts {v : ConfigValues} {texts : List String}
    (h : List.Forall₂ (fun p s => pieceText v p = .ok s) strategyEnd texts) :
    texts.flatMap String.toList =
      "    static const unsigned ".toList ++
        (strategyLabel ++ ("nnet::" ++ v.strategy).toList ++ blockEnd) := by
  have hend : strategyEnd = [.literal "    static const unsigned strategy = nnet::",
      value "Strategy", .literal ";\n", .literal "\x7d;\n"] := by decide
  rw [hend] at h
  obtain _ | ⟨hline, _ | ⟨hvalue, _ | ⟨hsemi, _ | ⟨hbrace, _ | _⟩⟩⟩⟩ := h
  obtain rfl := Except.ok.inj hline
  obtain rfl := Except.ok.inj hvalue
  obtain rfl := Except.ok.inj hsemi
  obtain rfl := Except.ok.inj hbrace
  have hsplit : "    static const unsigned strategy = nnet::".toList =
      "    static const unsigned ".toList ++ strategyLabel ++ "nnet::".toList := by decide
  simp [hsplit, blockEnd, String.toList_append]

/-- **The block of a node sets the node's strategy, as generated code spells it.** -/
theorem printedStrategy?_config {n : Node} (hr : n.variant.resourceRules.isSome = true)
    {text : String} (h : Registry.builtin.config n = .ok text) :
    printedStrategy? text = some ("nnet::" ++ strategyText n.strategy) := by
  obtain ⟨pieces, hpieces, hquiet⟩ := builtinConfig_eq hr
  rw [Registry.builtin_config_eq_ok, hpieces] at h
  obtain ⟨texts, htexts, rfl⟩ := render_eq_ok h
  have hbefore := (List.forall₂_take_append texts pieces strategyEnd htexts.flip).flip
  have hend := (List.forall₂_drop_append texts pieces strategyEnd htexts.flip).flip
  -- The search passes over the quiet pieces and comes to the end of the block.
  have hmisses : ∀ t ∈ texts.take pieces.length, misses strategyLabel t.toList = true := by
    intro t ht
    obtain ⟨p, hp, hpt⟩ := exists_of_mem_right hbefore ht
    exact misses_quiet (hquiet p hp) hpt
  have hindent : misses strategyLabel "    static const unsigned ".toList = true := by
    decide +kernel
  have hvalue : valueAfter? strategyLabel (String.join texts).toList =
      some (("nnet::" ++ strategyText n.strategy).toList ++ blockEnd) := by
    rw [String.toList_join, ← List.take_append_drop pieces.length texts, List.flatMap_append,
      valueAfter?_flatMap hmisses, strategyEnd_texts hend, valueAfter?_append hindent,
      strategyLabel_eq, List.append_assoc, valueAfter?_label]
    rfl
  rw [printedStrategy?, hvalue, Option.map_some, List.length_append, Nat.add_sub_cancel,
    List.take_left, String.ofList_toList]

end LayerCode.Template
