import LayerCode.Proofs.Template.Renders

/-!
# Checking the registered templates

Whatever is registered for the variants, with samples of their record types, a registry without
faults is one that renders every node. One of the two templates may be replaced without the other,
if the second text is not a template.

* `Registration`, `Registry.after`: the registry of the kernel library with other templates;
* `Registry.Sampled.register`, `Registry.sampled_after`: the samples stay of the variants' types;
* `Variant.exists_make`: every variant has nodes;
* **`Registry.check_after_eq_nil_iff`**.
-/

namespace LayerCode

open Text Outcome

/-! ## A node of each variant -/

/-- The record with every number one, and with the largest value for its reduction. -/
def Attributes.unit (k : RecordKind) : Attributes :=
  ofEntries (("pool_op", .poolOp .max) :: (zero k).fields.map fun f => (f.tag, .count 1)) k

/-- A layer with such a record and with weights of one value. -/
def Variant.unitLayer (v : Variant) : NodeSpec where
  variant := v.code
  attrs := some (Attributes.unit v.record)
  weights := v.declaredWeights.map fun name => ⟨name, [1], #[0]⟩

theorem Variant.code_injective {v w : Variant} (h : v.code = w.code) : v = w := by
  have hsome : some v = some w := by rw [← v.ofCode?_code, h, w.ofCode?_code]
  exact Option.some.inj hsome

/-- Every variant has nodes. -/
theorem Variant.exists_make (v : Variant) :
    ∃ n, Node.make v.unitLayer = .ok n ∧ n.variant = v := by
  have hok : (Node.make v.unitLayer).isOk = true := by
    cases v <;> decide +kernel
  obtain ⟨n, hn⟩ := exists_of_isOk hok
  obtain ⟨w, a, hw, -, -, -, -, -, rfl⟩ := Node.make_cases hn
  refine ⟨_, hn, ?_⟩
  rw [unitLayer, v.ofCode?_code] at hw
  exact (Option.some.inj hw).symm

theorem Node.make_record {spec : NodeSpec} {n : Node} (h : make spec = .ok n) :
    ∃ a, n.attrs = some a ∧ a.kind = n.variant.record := by
  obtain ⟨v, a, -, -, hkind, -, -, -, rfl⟩ := make_cases h
  exact ⟨a, rfl, hkind⟩

/-! ## Registering -/

/-- Templates for a variant, with a record of its type to try them on. -/
structure Registration where
  variant : Variant
  sample : Attributes
  fits : sample.kind = variant.record
  config : String
  call : String

namespace Registry

/-- The registry of the kernel library after some registrations, whether they were taken or not. -/
def after (registrations : List Registration) : Registry :=
  registrations.foldl
    (fun r e => (r.register e.variant.code (some e.sample) e.config e.call).1) builtin

/-- **Registering keeps samples of the variants' types**, whichever of the templates it takes. -/
theorem Sampled.register {r : Registry} (h : r.Sampled) (e : Registration) :
    (r.register e.variant.code (some e.sample) e.config e.call).1.Sampled := by
  unfold Registry.register
  split_ifs
  · exact h
  · split
    · exact h
    · dsimp only
      split
      · exact h
      · intro v
        by_cases hv : v = e.variant
        · subst hv
          exact ⟨e.sample, by simp, e.fits⟩
        · obtain ⟨a, ha, hkind⟩ := h v
          have hcode : (v.code == e.variant.code) = false := by
            simpa using fun hc => hv (Variant.code_injective hc)
          exact ⟨a, by simpa [List.lookup_cons, hcode] using ha, hkind⟩

theorem sampled_after (registrations : List Registration) : (after registrations).Sampled :=
  List.foldlRecOn registrations _ sampled_builtin fun _ h e _ => h.register e

/-- **A registry has no faults if and only if every node can be rendered**, after any registrations
for the variants. -/
theorem check_after_eq_nil_iff (registrations : List Registration) :
    (after registrations).check = [] ↔
      ∀ spec n, Node.make spec = .ok n → ∀ tag,
        (∃ text, (after registrations).config n = .ok text) ∧
          ∃ text, (after registrations).call n tag = .ok text := by
  have hs := sampled_after registrations
  rw [check_eq_nil_iff]
  constructor
  · intro hcheck spec n hn tag
    obtain ⟨a, ha, hkind⟩ := Node.make_record hn
    obtain ⟨hconfig, hcall⟩ :=
      (checkVariant_eq_nil_iff hs ha hkind tag).mp (hcheck n.variant)
    exact ⟨exists_of_isOk hconfig, exists_of_isOk hcall⟩
  · intro hrender v
    obtain ⟨n, hn, rfl⟩ := v.exists_make
    obtain ⟨a, ha, hkind⟩ := Node.make_record hn
    obtain ⟨⟨text, hconfig⟩, invocation, hcall⟩ := hrender _ n hn ""
    rw [checkVariant_eq_nil_iff hs ha hkind "", hconfig, hcall]
    exact ⟨rfl, rfl⟩

-- the second text is no template, and the first has replaced a config template all the same
example : (after
    [⟨.dense, .zero .dense, rfl, "\x7b\x7b.Attrs.PoolOp\x7d\x7d", "\x7b\x7b"⟩]).check ≠ [] := by
  decide +kernel

end Registry

end LayerCode
