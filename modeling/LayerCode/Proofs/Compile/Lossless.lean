import LayerCode.Proofs.Compile.Outcomes
import LayerCode.Proofs.Snapshot.RoundTrip
import LayerCode.Proofs.Template.Readable
import LayerCode.Proofs.Template.Registered

/-!
# What the text of a node tells about it

The numbers and options of a record stand in the config block, each in a line of its own, and none
of them holds a mark that ends the line. The strategy is free text, and stands last. So all of them
can be read off the block. The channel order does not stand there: it is the end of the name of the
kernel, in the invocation.

* `fieldText_inj`: the text of a declared value tells the value;
* `Attributes.eq_of_attributeText`: the texts of its fields tell a record;
* `unmarked_text`, `readable_builtinConfig`, `attr_mem_builtinConfig`: config blocks can be read,
  and hold all fields but the channel order;
* **`values_of_config`**, `tag_eq_of_render`: the block tells its values, and the invocation the
  channel order;
* **`Compile.node_of_code`**: the texts of a node tell its index, its record, and its reuse factor
  and strategy, if its variant has them in the block.
-/

namespace LayerCode

open Text Outcome

/-! ## Values -/

/-- The zero value of the same type. -/
def FieldValue.blank : FieldValue → FieldValue
  | .count _ => .count 0
  | .flag _ => .flag false
  | .poolOp _ => .poolOp .unset
  | .dataFormat _ => .dataFormat .channelsLast

/-- The value is not an undeclared option. -/
def FieldValue.Declared : FieldValue → Prop
  | .count _ | .flag _ => True
  | .poolOp p => p.declared = true
  | .dataFormat f => f.Declared

/-- **The text of a declared value tells the value**, among values of its type. -/
theorem Template.fieldText_inj {v w : FieldValue} (hb : v.blank = w.blank) (hv : v.Declared)
    (hw : w.Declared) (h : fieldText v = fieldText w) : v = w := by
  cases v with
  | count m =>
    cases w with
    | count n => rw [decimal_inj h]
    | flag _ | poolOp _ | dataFormat _ => simp [FieldValue.blank] at hb
  | flag b =>
    cases w with
    | flag c => cases b <;> cases c <;> first | rfl | exact absurd h (by decide)
    | count _ | poolOp _ | dataFormat _ => simp [FieldValue.blank] at hb
  | poolOp p =>
    cases w with
    | poolOp q =>
      have hparse := PoolOp.parse_name hv
      rw [show p.name = q.name from h, PoolOp.parse_name hw] at hparse
      rw [Except.ok.inj hparse]
    | count _ | flag _ | dataFormat _ => simp [FieldValue.blank] at hb
  | dataFormat f =>
    cases w with
    | dataFormat g =>
      have hparse := f.parse_name
      rw [show f.name = g.name from h, g.parse_name, DataFormat.named_of_declared hv,
        DataFormat.named_of_declared hw] at hparse
      rw [Except.ok.inj hparse]
    | count _ | flag _ | poolOp _ => simp [FieldValue.blank] at hb

/-! ## Records -/

/-- The field with the zero value of its type. -/
def Field.blank (f : Field) : Field := { f with value := f.value.blank }

theorem Field.eq_of_blank {f g : Field} (h : f.blank = g.blank) (hv : f.value = g.value) : f = g := by
  cases f
  cases g
  simp_all [blank]

namespace Attributes

variable {a b : Attributes}

/-- A record is made of its entries. -/
theorem ofEntries_entries (a : Attributes) : ofEntries a.entries a.kind = a := by
  cases a <;> rfl

theorem map_blank_fields (a : Attributes) : a.fields.map Field.blank = (zero a.kind).fields := by
  cases a <;> rfl

theorem nodup_symbols (a : Attributes) : (a.fields.map Field.symbol).Nodup := by
  rw [map_symbol_fields]
  cases a.kind <;> decide +kernel

/-- The channel order of a field. -/
def fieldDataFormat? (f : Field) : Option DataFormat :=
  match f.value with
  | .dataFormat o => some o
  | _ => none

theorem filterMap_fieldDataFormat? (a : Attributes) :
    a.fields.filterMap fieldDataFormat? = a.dataFormat?.toList := by
  cases a <;> rfl

theorem dataFormat?_eq_some_iff {o : DataFormat} :
    a.dataFormat? = some o ↔ ∃ f ∈ a.fields, f.value = .dataFormat o := by
  have hfield : ∀ f : Field, fieldDataFormat? f = some o ↔ f.value = .dataFormat o := by
    intro f
    unfold fieldDataFormat?
    cases f.value <;> simp
  rw [← Option.mem_toList, ← filterMap_fieldDataFormat?, List.mem_filterMap]
  simp only [hfield]

/-- The values of a record without a fault are declared, if its channel order is. -/
theorem declared_of_mem (hc : a.check = .ok ()) (hd : ∀ f, a.dataFormat? = some f → f.Declared)
    {f : Field} (h : f ∈ a.fields) : f.value.Declared := by
  cases hv : f.value with
  | count n => trivial
  | flag b => trivial
  | poolOp p => exact declared_of_check hc p (Snapshot.poolOp?_of_mem h hv)
  | dataFormat o => exact hd o (dataFormat?_eq_some_iff.mpr ⟨f, h, hv⟩)

theorem attributeText_of_mem {f : Field} (h : f ∈ a.fields) :
    Template.attributeText (some a) f.symbol = .ok (Template.fieldText f.value) := by
  have hfind : a.fields.find? (fun g => g.symbol == f.symbol) = some f := by
    obtain ⟨before, after, hsplit⟩ := List.append_of_mem h
    have hn := a.nodup_symbols
    rw [hsplit, List.map_append, List.map_cons, List.nodup_append] at hn
    refine List.find?_eq_some_iff_append.mpr ⟨by simp, before, after, hsplit, fun g hg => ?_⟩
    simpa using hn.2.2 _ (List.mem_map_of_mem hg) _ List.mem_cons_self
  simp only [Template.attributeText, hfind]

theorem attributeText_dataFormat (a : Attributes) : Template.attributeText (some a) "DataFormat" =
    (a.dataFormat?.map DataFormat.name).elim (.error .unresolved) .ok := by
  cases a <;> rfl

/-- **The texts of its fields tell a record** with declared options, among records of its type. -/
theorem eq_of_attributeText (hk : a.kind = b.kind) (ha : ∀ f ∈ a.fields, f.value.Declared)
    (hb : ∀ f ∈ b.fields, f.value.Declared) (h : ∀ f ∈ a.fields,
      Template.attributeText (some a) f.symbol = Template.attributeText (some b) f.symbol) :
    a = b := by
  have hblanks : a.fields.map Field.blank = b.fields.map Field.blank := by
    rw [map_blank_fields, map_blank_fields, hk]
  have hlen : a.fields.length = b.fields.length := by simpa using congrArg List.length hblanks
  have hfields : a.fields = b.fields := by
    refine List.ext_getElem hlen fun i hi hj => ?_
    have hmem : a.fields[i] ∈ a.fields := List.getElem_mem hi
    have hmem' : b.fields[i] ∈ b.fields := List.getElem_mem hj
    have hblank : a.fields[i].blank = b.fields[i].blank := by
      simpa [hi, hj] using congrArg (·[i]?) hblanks
    have hsymbol : a.fields[i].symbol = b.fields[i].symbol := by
      simpa [Field.blank] using congrArg Field.symbol hblank
    have htext := h _ hmem
    rw [attributeText_of_mem hmem, hsymbol, attributeText_of_mem hmem'] at htext
    refine Field.eq_of_blank hblank ?_
    exact Template.fieldText_inj (congrArg Field.value hblank) (ha _ hmem) (hb _ hmem')
      (Except.ok.inj htext)
  rw [← a.ofEntries_entries, ← b.ofEntries_entries, entries, entries, hfields, hk]

end Attributes

namespace Template

/-! ## Config blocks -/

theorem unmarked_decimal (n : Int64) : Unmarked (decimal n) := by
  have hmarks : marks.any inNumber = false := by decide
  intro c hc hmem
  have hnumber : inNumber c = true := by simpa [inNumber] using mem_decimal hmem
  exact List.any_eq_false.mp hmarks c hc hnumber

theorem unmarked_of_all {s : String} (h : (marks.all fun c => !s.toList.contains c) = true) :
    Unmarked s := by
  intro c hc
  simpa using List.all_eq_true.mp h c hc

theorem unmarked_fieldText {v : FieldValue} (h : v.Declared) : Unmarked (fieldText v) := by
  cases v with
  | count n => exact unmarked_decimal n
  | flag b => cases b <;> exact unmarked_of_all (by decide)
  | poolOp p => rcases PoolOp.eq_of_declared h with rfl | rfl <;> exact unmarked_of_all (by decide)
  | dataFormat f => rcases h with rfl | rfl <;> exact unmarked_of_all (by decide)

/-- The values of a config block that are numbers or options. -/
def plainValue : Piece → Bool
  | .lookup ["Index"] [] => true
  | .lookup ["ReuseFactor"] [] => true
  | .lookup ["Attrs", symbol] [] => symbol != "Format"
  | _ => false

theorem unmarked_text {v : ConfigValues} {a : Attributes} (hv : v.attrs = some a)
    (ha : ∀ f ∈ a.fields, f.value.Declared) {p : Piece} (hp : plainValue p = true) {s : String}
    (h : p.text v.resolve = .ok s) : Unmarked s := by
  unfold plainValue at hp
  split at hp
  · obtain rfl := Except.ok.inj h
    exact unmarked_decimal _
  · obtain rfl := Except.ok.inj h
    exact unmarked_decimal _
  · next symbol =>
    have htext : attributeText (some a) symbol = .ok s := hv ▸ h
    obtain ⟨f, hf, -, rfl⟩ := exists_mem_of_attributeText (bne_iff_ne.mp hp) htext
    exact unmarked_fieldText (ha f hf)
  · exact absurd hp (by simp)

theorem readable_builtinConfig (v : Variant) : readable plainValue (builtinConfig v) = true := by
  cases v <;> decide +kernel

/-- The block of a variant has all fields of its record but the channel order. -/
theorem attr_mem_builtinConfig {v : Variant} {a : Attributes} (hk : a.kind = v.record) {f : Field}
    (hf : f ∈ a.fields) (hs : f.symbol ≠ "DataFormat") : attr f.symbol ∈ builtinConfig v := by
  have hall : ∀ v : Variant, ∀ symbol ∈ (Attributes.zero v.record).fields.map Field.symbol,
      symbol ≠ "DataFormat" → attr symbol ∈ builtinConfig v := by
    intro v
    cases v <;> decide +kernel
  refine hall v f.symbol ?_ hs
  rw [← hk, ← Attributes.map_symbol_fields]
  exact List.mem_map_of_mem hf

theorem index_mem_builtinConfig (v : Variant) : value "Index" ∈ builtinConfig v := by
  cases v <;> decide +kernel

theorem strategy_mem_builtinConfig {v : Variant} (h : v.family ≠ .pooling) :
    value "ReuseFactor" ∈ builtinConfig v ∧ value "Strategy" ∈ builtinConfig v := by
  cases v
  case pooling1D | pooling2D | globalPooling1D | globalPooling2D => exact absurd rfl h
  all_goals decide +kernel

/-- **A config block tells its values**, but for a channel order in the record. -/
theorem values_of_config {v : Variant} {c d : ConfigValues} {a b : Attributes}
    (hc : c.attrs = some a) (hd : d.attrs = some b) (hk : a.kind = v.record)
    (ha : ∀ f ∈ a.fields, f.value.Declared) (hb : ∀ f ∈ b.fields, f.value.Declared) {text : String}
    (h : render c.resolve (builtinConfig v) = .ok text)
    (h' : render d.resolve (builtinConfig v) = .ok text) :
    c.index = d.index ∧
      (∀ f ∈ a.fields, f.symbol ≠ "DataFormat" →
        attributeText (some a) f.symbol = attributeText (some b) f.symbol) ∧
      (v.family ≠ .pooling → c.reuseFactor = d.reuseFactor ∧ c.strategy = d.strategy) := by
  have hsame := text_eq_of_render_eq (fun _ hp _ hs => unmarked_text hc ha hp hs)
    (fun _ hp _ hs => unmarked_text hd hb hp hs) (readable_builtinConfig v) h h'
  refine ⟨?_, fun f hf hs => ?_, fun hv => ?_⟩
  · exact decimal_inj (Except.ok.inj (hsame _ (index_mem_builtinConfig v)))
  · have htext := hsame _ (attr_mem_builtinConfig hk hf hs)
    rw [← hc, ← hd]
    exact htext
  · obtain ⟨hreuse, hstrategy⟩ := strategy_mem_builtinConfig hv
    exact ⟨decimal_inj (Except.ok.inj (hsame _ hreuse)), Except.ok.inj (hsame _ hstrategy)⟩

end Template

/-! ## Invocations -/

namespace Template

/-- The kernels of layers whose record has a channel order end in it. -/
theorem exists_formatted {v : Variant} {a : Attributes} (hk : a.kind = v.record)
    (hf : a.dataFormat?.isSome = true) :
    ∃ name args, builtinCall v = invocation (.formatted name) args := by
  rw [Attributes.isSome_dataFormat?, hk] at hf
  cases v
  case dense | lstm | gru | multiHeadAttention => exact absurd hf (by decide)
  all_goals exact ⟨_, _, rfl⟩

theorem tag_eq_of_render {o o' : ChannelOrder} {v v' : CallValues} (ho : v.dataFormat = o.tag)
    (ho' : v'.dataFormat = o'.tag) {name text : String} {args : List Piece}
    (h : render v.resolve (invocation (.formatted name) args) = .ok text)
    (h' : render v'.resolve (invocation (.formatted name) args) = .ok text) : o = o' := by
  rw [invocation, KernelName.pieces, List.append_assoc, List.append_assoc, List.append_assoc,
    List.append_assoc, List.cons_append, List.cons_append] at h h'
  obtain ⟨s, rest, hs, hrest, rfl⟩ := render_cons_eq_ok.mp h
  obtain ⟨s', rest', hs', hrest', heq⟩ := render_cons_eq_ok.mp h'
  obtain rfl := Except.ok.inj hs
  obtain rfl := Except.ok.inj hs'
  obtain ⟨tag, rest, htag, -, rfl⟩ := render_cons_eq_ok.mp hrest
  obtain ⟨tag', rest', htag', -, rfl⟩ := render_cons_eq_ok.mp hrest'
  obtain rfl : o.tag = tag := ho ▸ Except.ok.inj htag
  obtain rfl : o'.tag = tag' := ho' ▸ Except.ok.inj htag'
  have hchars := congrArg String.toList heq
  simp only [String.toList_append, List.append_cancel_left_eq] at hchars
  -- Both tags have two letters.
  have hlength : ∀ o : ChannelOrder, o.tag.toList.length = 2 := by
    intro o
    cases o <;> rfl
  have hsame := List.append_inj_left hchars (by rw [hlength, hlength])
  revert hsame
  cases o <;> cases o' <;> decide

end Template

/-- How records name a channel order. -/
def ChannelOrder.format : ChannelOrder → DataFormat
  | .last => .channelsLast
  | .first => .channelsFirst

theorem Target.format_of_validate {t : Target} {n : Node} {order : ChannelOrder}
    (h : t.validate n = .ok order) {f : DataFormat}
    (hf : n.attrs.bind Attributes.dataFormat? = some f) (hd : f.Declared) : f = order.format := by
  simp only [validate, hf] at h
  rcases hd with rfl | rfl
  · obtain rfl := Except.ok.inj h
    rfl
  · split_ifs at h with hfirst
    · exact absurd hfirst (by decide)
    · obtain rfl := Except.ok.inj h
      rfl

namespace Compile

/-- Every node has code for a target with kernels for its channel order. -/
theorem exists_codeOf {t : Target} (ht : t ∈ Target.all) {spec : NodeSpec} {n : Node}
    (h : Node.make spec = .ok n) {order : ChannelOrder} (ho : t.validate n = .ok order) :
    ∃ a, CodeOf t n a := by
  obtain ⟨a, ha, hkind⟩ := Node.make_record h
  have hcheck := Registry.check_eq_nil_iff.mp Registry.check_builtin n.variant
  obtain ⟨hconfig, hcall⟩ :=
    (Registry.checkVariant_eq_nil_iff Registry.sampled_builtin ha hkind order.tag).mp hcheck
  obtain ⟨config, hconfig⟩ := exists_of_isOk hconfig
  obtain ⟨call, hcall⟩ := exists_of_isOk hcall
  rw [← Target.registry_of_mem ht] at hconfig hcall
  exact ⟨⟨n.name, n.variant.name, config, call, some n.variant.headers⟩, rfl, rfl, hconfig,
    ⟨order, ho, hcall⟩, rfl⟩

/-- The invocations of two nodes tell their channel orders apart. -/
theorem dataFormat_eq_of_call {n m : Node} {a b : Attributes} {x y : Artifact}
    (hx : CodeOf .vivado n x) (hy : CodeOf .vivado m y) (hcall : x.call = y.call)
    (hv : n.variant = m.variant) (hn : n.attrs = some a) (hm : m.attrs = some b)
    (hka : a.kind = n.variant.record) (hkb : b.kind = m.variant.record)
    (ha : ∀ f, a.dataFormat? = some f → f.Declared)
    (hb : ∀ f, b.dataFormat? = some f → f.Declared) :
    a.dataFormat? = b.dataFormat? := by
  obtain ⟨order, horder, htext⟩ := hx.call
  obtain ⟨order', horder', htext'⟩ := hy.call
  have hsome : a.dataFormat?.isSome = b.dataFormat?.isSome := by
    rw [a.isSome_dataFormat?, b.isSome_dataFormat?, hka, hkb, hv]
  cases hf : a.dataFormat? with
  | none =>
    rw [hf, Option.isSome_none, eq_comm, Option.isSome_eq_false_iff,
      Option.isNone_iff_eq_none] at hsome
    exact hsome.symm
  | some f =>
    obtain ⟨g, hg⟩ : ∃ g, b.dataFormat? = some g := by
      rwa [hf, Option.isSome_some, eq_comm, Option.isSome_iff_exists] at hsome
    obtain ⟨name, args, htemplate⟩ := Template.exists_formatted hka (hf ▸ rfl)
    have hrender := Registry.builtin_call_eq_ok.mp htext
    have hrender' := Registry.builtin_call_eq_ok.mp htext'
    rw [htemplate] at hrender
    rw [← hv, htemplate, ← hcall] at hrender'
    obtain rfl : order = order' := Template.tag_eq_of_render rfl rfl hrender hrender'
    rw [hg, Target.format_of_validate horder (by rw [hn]; exact hf) (ha f hf),
      Target.format_of_validate horder' (by rw [hm]; exact hg) (hb g hg)]

/-- **The texts of a node tell what it is.** Two nodes of a variant with declared channel orders
have a config block and an invocation each. If these are the same for both, so are the indices of
the nodes and their records, and for all but pooling layers also the reuse factors and the
strategies in lower case, where no strategy counts as latency. -/
theorem node_of_code {spec spec' : NodeSpec} {n m : Node} (hn : Node.make spec = .ok n)
    (hm : Node.make spec' = .ok m) (hv : n.variant = m.variant) (hdn : n.DeclaredFormat)
    (hdm : m.DeclaredFormat) :
    (∃ x, CodeOf .vivado n x) ∧ (∃ y, CodeOf .vivado m y) ∧
      ∀ x y, CodeOf .vivado n x → CodeOf .vivado m y → x.config = y.config → x.call = y.call →
        n.index = m.index ∧ n.attrs = m.attrs ∧
          (n.variant.family ≠ .pooling → n.reuseFactor = m.reuseFactor ∧
            (if n.strategy = "" then "latency" else lower n.strategy) =
              if m.strategy = "" then "latency" else lower m.strategy) := by
  have hcode : ∀ {spec : NodeSpec} {n : Node}, Node.make spec = .ok n →
      ∃ x, CodeOf .vivado n x := by
    intro spec n hn
    obtain ⟨order, horder⟩ := Target.exists_validate_eq_ok (t := .vivado) (n := n) fun f hf =>
      absurd hf.1 (by decide)
    exact exists_codeOf (by decide) hn horder
  refine ⟨hcode hn, hcode hm, fun x y hx hy hconfig hcall => ?_⟩
  obtain ⟨v, a, -, -, hka, hca, -, -, rfl⟩ := Node.make_cases hn
  obtain ⟨w, b, -, -, hkb, hcb, -, -, rfl⟩ := Node.make_cases hm
  obtain rfl : v = w := hv
  have hda : ∀ f, a.dataFormat? = some f → f.Declared := fun f => hdn a f rfl
  have hdb : ∀ f, b.dataFormat? = some f → f.Declared := fun f => hdm b f rfl
  have ha : ∀ f ∈ a.fields, f.value.Declared := fun f => a.declared_of_mem hca hda
  have hb : ∀ f ∈ b.fields, f.value.Declared := fun f => b.declared_of_mem hcb hdb
  have hblock := Registry.builtin_config_eq_ok.mp hx.config
  have hblock' := Registry.builtin_config_eq_ok.mp hy.config
  rw [← hconfig] at hblock'
  obtain ⟨hindex, htexts, hrest⟩ := Template.values_of_config rfl rfl hka ha hb hblock hblock'
  refine ⟨hindex, congrArg some ?_, hrest⟩
  refine Attributes.eq_of_attributeText (hka.trans hkb.symm) ha hb fun f hf => ?_
  -- The channel order is the one field that the block does not show.
  by_cases hs : f.symbol = "DataFormat"
  · rw [hs, a.attributeText_dataFormat, b.attributeText_dataFormat,
      dataFormat_eq_of_call hx hy hcall rfl rfl rfl hka hkb hda hdb]
  · exact htexts f hf hs

/-- A convolution with the channels first. -/
def convolution (strategy : String) (input output : Buffer) : Node where
  name := "conv"
  index := -7
  strategy := strategy
  reuseFactor := 1
  input := input
  output := output
  attrs := some (Attributes.ofEntries
    (("data_format", .dataFormat .channelsFirst) :: (Attributes.unit .conv1D).entries) .conv1D)
  variant := .conv1D
  weights := [⟨"bias", [1], #[0]⟩, ⟨"weight", [1], #[0]⟩]
  layout := .untransformed

/-- Spelled differently, and with other types of the buffers, a convolution has the same texts. -/
theorem node_of_code_convolution :
    ∃ n m x y, Node.make { n.spec with reuseFactor := 0 } = .ok n ∧ Node.make m.spec = .ok m ∧
      n.strategy ≠ m.strategy ∧ n.input ≠ m.input ∧ n.DeclaredFormat ∧ m.DeclaredFormat ∧
      CodeOf .vivado n x ∧ CodeOf .vivado m y ∧ x.config = y.config ∧ x.call = y.call ∧
      n.index = m.index ∧ n.attrs = m.attrs ∧ n.reuseFactor = m.reuseFactor ∧
        (if n.strategy = "" then "latency" else lower n.strategy) =
          if m.strategy = "" then "latency" else lower m.strategy := by
  let n := convolution "" ⟨"x", "a, b"⟩ ⟨"y", "c"⟩
  let m := convolution "LATENCY" ⟨"x", "a"⟩ ⟨"y", "b, c"⟩
  have hn : Node.make { n.spec with reuseFactor := 0 } = .ok n := by decide +kernel
  have hm : Node.make m.spec = .ok m := by decide +kernel
  have hdeclared : ∀ s i o, (convolution s i o).DeclaredFormat := by
    intro s i o a f ha hf
    obtain rfl := Option.some.inj ha
    exact .inr (Option.some.inj hf).symm
  obtain ⟨⟨x, hx⟩, ⟨y, hy⟩, htell⟩ :=
    node_of_code hn hm rfl (hdeclared _ _ _) (hdeclared _ _ _)
  have hconfigs : Registry.builtin.config n = Registry.builtin.config m := by decide +kernel
  have hcalls : Registry.builtin.call n "cf" = Registry.builtin.call m "cf" := by decide +kernel
  have hconfig : x.config = y.config :=
    Except.ok.inj (hx.config.symm.trans (hconfigs.trans hy.config))
  have hcall : x.call = y.call := by
    obtain ⟨order, horder, htext⟩ := hx.call
    obtain ⟨order', horder', htext'⟩ := hy.call
    obtain rfl := Except.ok.inj horder
    obtain rfl := Except.ok.inj horder'
    exact Except.ok.inj (htext.symm.trans (hcalls.trans htext'))
  obtain ⟨hindex, hattrs, hrest⟩ := htell x y hx hy hconfig hcall
  obtain ⟨hreuse, hstrategy⟩ := hrest (by decide)
  exact ⟨n, m, x, y, hn, hm, by decide, by decide, hdeclared _ _ _, hdeclared _ _ _, hx, hy,
    hconfig, hcall, hindex, hattrs, hreuse, hstrategy⟩

end Compile

end LayerCode
