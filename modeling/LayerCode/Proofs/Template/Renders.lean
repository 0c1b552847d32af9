import LayerCode.Proofs.Graph.WellFormed
import LayerCode.Proofs.Outcome
import LayerCode.Template.Registry

/-!
# Templates that were tried can be rendered

A registry is checked by rendering the templates of every variant on a sample. Whether a template
can be rendered depends on what its paths may name: the fields of a record, which are those of its
type, and the weights that a variant declares. A sample has both, so a template that can be rendered
on the sample can be rendered on every node of the variant.

* `attributeText_isOk`, `ConfigValues.resolve_isOk`, `CallValues.resolve_isOk`: the paths that name
  a value;
* `isOk_render`: a template can be rendered if its paths name values;
* `Registry.checkVariant_eq_nil_iff`: the templates of a variant have no faults exactly if a node of
  the variant can be rendered;
* **`Registry.renders_of_check`**: a registry without faults renders every well-formed node.
-/

namespace LayerCode

open Text Outcome

namespace Attributes

/-- Records of one type have the same symbols. -/
theorem map_symbol_fields (a : Attributes) :
    a.fields.map Field.symbol = (zero a.kind).fields.map Field.symbol := by
  cases a <;> rfl

theorem isSome_dataFormat? (a : Attributes) :
    a.dataFormat?.isSome = (zero a.kind).dataFormat?.isSome := by
  cases a <;> rfl

end Attributes

namespace Template

/-! ## Paths -/

theorem exists_mem_of_attributeText {a : Attributes} {symbol text : String} (hs : symbol ≠ "Format")
    (h : attributeText (some a) symbol = .ok text) :
    ∃ f ∈ a.fields, f.symbol = symbol ∧ text = fieldText f.value := by
  unfold attributeText at h
  dsimp only at h
  split at h
  · next f hf =>
    exact ⟨f, List.mem_of_find?_eq_some hf, by simpa using List.find?_some hf,
      (Except.ok.inj h).symm⟩
  · split at h
    · exact absurd rfl hs
    · exact absurd h (by simp)

theorem attributeText_isOk (a : Attributes) (symbol : String) :
    (attributeText (some a) symbol).isOk =
      ((a.fields.map Field.symbol).any (· == symbol) ||
        (symbol == "Format" && a.dataFormat?.isSome)) := by
  rw [List.any_map]
  cases hfind : a.fields.find? fun f => f.symbol == symbol with
  | some f =>
    have hany : (a.fields.any fun f => f.symbol == symbol) = true := by
      rw [List.any_eq_true]
      exact ⟨f, List.mem_of_find?_eq_some hfind, by simpa using List.find?_some hfind⟩
    simp [attributeText, hfind, Function.comp_def, hany]
  | none =>
    have hany : (a.fields.any fun f => f.symbol == symbol) = false := by
      simpa [List.find?_eq_none] using hfind
    simp only [attributeText, hfind, Function.comp_def, hany, Bool.false_or]
    by_cases hs : symbol = "Format"
    · subst hs
      cases a.dataFormat? <;> simp
    · simp [hs]

theorem attributeText_isOk_of_kind {a b : Attributes} (h : a.kind = b.kind) (symbol : String) :
    (attributeText (some a) symbol).isOk = (attributeText (some b) symbol).isOk := by
  rw [attributeText_isOk, attributeText_isOk, a.map_symbol_fields, b.map_symbol_fields,
    a.isSome_dataFormat?, b.isSome_dataFormat?, h]

theorem ConfigValues.resolve_isOk {v w : ConfigValues} {a b : Attributes} (hv : v.attrs = some a)
    (hw : w.attrs = some b) (h : a.kind = b.kind) (path : List String) (args : List RawText) :
    (v.resolve path args).isOk = (w.resolve path args).isOk := by
  unfold ConfigValues.resolve
  split
  case h_6 _ _ symbol =>
    rw [hv, hw]
    exact attributeText_isOk_of_kind h symbol
  all_goals simp

theorem CallValues.weight_isOk (v : CallValues) (name : RawText) :
    (v.weight name).isOk = (v.weights.map Prod.fst).any fun w => RawText.ofString w == name := by
  rw [List.any_map]
  unfold CallValues.weight
  split
  · next w hw =>
    rw [isOk_ok, eq_comm, List.any_eq_true]
    exact ⟨w, List.mem_of_find?_eq_some hw, by simpa using List.find?_some hw⟩
  · next hw =>
    rw [isOk_error, eq_comm]
    simpa [List.find?_eq_none] using hw

theorem CallValues.resolve_isOk {v w : CallValues}
    (h : v.weights.map Prod.fst = w.weights.map Prod.fst) (path : List String)
    (args : List RawText) : (v.resolve path args).isOk = (w.resolve path args).isOk := by
  have hsome : ∀ (u : CallValues) (name : String),
      (u.weights.lookup name).isSome = (u.weights.map Prod.fst).any (name == ·) := by
    intro u name
    rw [Bool.eq_iff_iff, List.lookup_isSome_iff, List.any_map, List.any_eq_true]
    rfl
  unfold CallValues.resolve
  split
  case h_10 _ _ name =>
    have hboth : (v.weights.lookup name).isSome = (w.weights.lookup name).isSome := by
      rw [hsome, hsome, h]
    cases hv : v.weights.lookup name <;> cases hw : w.weights.lookup name <;> simp_all
  case h_11 _ _ name => rw [weight_isOk, weight_isOk, h]
  all_goals simp

/-! ## Templates -/

theorem isOk_render {resolve resolve' : List String → List RawText → Except Cause String}
    (h : ∀ path args, (resolve path args).isOk = (resolve' path args).isOk) (t : Template) :
    (render resolve t).isOk = (render resolve' t).isOk := by
  have hbind : ∀ x : Except Cause (List String),
      (do pure (String.join (← x)) : Except Cause String).isOk = x.isOk := by
    intro x
    cases x <;> rfl
  unfold render
  rw [hbind, hbind, isOk_mapM, isOk_mapM]
  congr 1
  funext p
  cases p with
  | literal text => rfl
  | lookup path args => exact h path args

end Template

namespace Registry

theorem faultOf_eq_nil {α : Type} {x : Except Fault α} : faultOf x = [] ↔ x.isOk = true := by
  cases x <;> simp [faultOf]

theorem check_eq_nil_iff {r : Registry} : r.check = [] ↔ ∀ v, r.checkVariant v = [] := by
  have hall : ∀ v, v ∈ Variant.all := by
    intro v
    cases v <;> decide
  simp [check, List.flatMap_eq_nil_iff, hall]

/-- The samples are records of the variants' types. -/
def Sampled (r : Registry) : Prop :=
  ∀ v : Variant, ∃ a, r.samples.lookup v.code = some (some a) ∧ a.kind = v.record

/-- **A node with a record of its variant's type can be rendered if and only if the templates of the
variant have no faults.** -/
theorem checkVariant_eq_nil_iff {r : Registry} (hs : r.Sampled) {n : Node} {a : Attributes}
    (ha : n.attrs = some a) (hkind : a.kind = n.variant.record) (tag : String) :
    r.checkVariant n.variant = [] ↔ (r.config n).isOk = true ∧ (r.call n tag).isOk = true := by
  obtain ⟨b, hb, hkind'⟩ := hs n.variant
  have hconfig : ∀ path args, ((Template.ConfigValues.ofNode n).resolve path args).isOk =
      ((sampleConfig (some b)).resolve path args).isOk :=
    Template.ConfigValues.resolve_isOk ha rfl (hkind.trans hkind'.symm)
  have hcall : ∀ path args, ((Template.CallValues.ofNode n tag).resolve path args).isOk =
      ((sampleCall n.variant).resolve path args).isOk :=
    Template.CallValues.resolve_isOk
      (by simp [Template.CallValues.ofNode, sampleCall, Template.weightSymbols])
  rw [checkVariant, Registry.config, Registry.call, hb, Option.join_some]
  cases r.configs.lookup n.variant.code with
  | none => simp
  | some t =>
    cases r.calls.lookup n.variant.code with
    | none => simp
    | some u =>
      simp only [List.append_eq_nil_iff, faultOf_eq_nil, renderFor, isOk_mapError]
      rw [Template.isOk_render hconfig, Template.isOk_render hcall]

/-- **A registry without faults renders every well-formed node**, if its samples are records of the
variants' types. -/
theorem renders_of_check {r : Registry} (h : r.check = []) (hs : r.Sampled) {n : Node}
    (hn : n.WellFormed) :
    (∃ text, r.config n = .ok text) ∧ ∀ tag, ∃ text, r.call n tag = .ok text := by
  obtain ⟨a, ha, hkind, -⟩ := hn.record
  have hrender := fun tag =>
    (checkVariant_eq_nil_iff hs ha hkind tag).mp (check_eq_nil_iff.mp h n.variant)
  exact ⟨exists_of_isOk (hrender "").1, fun tag => exists_of_isOk (hrender tag).2⟩

theorem sampled_builtin : builtin.Sampled := by
  intro v
  refine ⟨Attributes.zero v.record, ?_, ?_⟩
  · cases v <;> rfl
  · cases v <;> rfl

theorem check_builtin : builtin.check = [] := by
  decide +kernel

/-- The registry of the kernel library renders every well-formed node. -/
theorem builtin_renders {n : Node} (hn : n.WellFormed) :
    (∃ text, builtin.config n = .ok text) ∧ ∀ tag, ∃ text, builtin.call n tag = .ok text :=
  renders_of_check check_builtin sampled_builtin hn

end Registry

end LayerCode
