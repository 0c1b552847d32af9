import LayerCode.Proofs.Graph.WellFormed

/-!
# The layers that are accepted

Which layers become nodes, told from the layer itself: its variant is declared, its record is of the
variant's type and has no number that is not positive where one is needed, and its weights carry the
declared names, each once, in any order.

* `Attributes.Admissible`: what is asked of a record, for each of the nine types;
* **`Attributes.check_eq_ok_iff`**: the check of a record, which goes through its list of fields,
  passes exactly the admissible ones;
* `Node.exists_checkWeights_iff`: sorting and comparing the names amounts to a permutation;
* `NodeSpec.Declared`: a layer that is as its variant declares;
* **`Node.make_iff_declared`**.
-/

namespace LayerCode

open Text Outcome

/-! ## Records -/

namespace Attributes

/-- The numbers that a layer cannot do without are positive, and the reduction of a pooling layer is
the largest value or the mean. -/
def Admissible : Attributes → Prop
  | .dense a => 0 < a.nIn ∧ 0 < a.nOut
  | .conv1D a =>
    0 < a.inWidth ∧ 0 < a.nChan ∧ 0 < a.filtWidth ∧ 0 < a.nFilt ∧ 0 < a.strideWidth ∧ 0 < a.outWidth
  | .conv2D a =>
    0 < a.inHeight ∧ 0 < a.inWidth ∧ 0 < a.nChan ∧ 0 < a.filtHeight ∧ 0 < a.filtWidth ∧
      0 < a.nFilt ∧ 0 < a.strideHeight ∧ 0 < a.strideWidth ∧ 0 < a.outHeight ∧ 0 < a.outWidth
  | .recurrent a => 0 < a.nIn ∧ 0 < a.nOut ∧ 0 < a.nSequence
  | .attention a =>
    0 < a.numHeads ∧ 0 < a.headDimKey ∧ 0 < a.headDimValue ∧ 0 < a.featureDim ∧ 0 < a.seqLen
  | .pooling1D a =>
    (a.poolOp = .max ∨ a.poolOp = .average) ∧
      0 < a.strideWidth ∧ 0 < a.poolWidth ∧ 0 < a.nIn ∧ 0 < a.nOut ∧ 0 < a.nFilt
  | .pooling2D a =>
    (a.poolOp = .max ∨ a.poolOp = .average) ∧
      0 < a.strideHeight ∧ 0 < a.strideWidth ∧ 0 < a.poolHeight ∧ 0 < a.poolWidth ∧
      0 < a.inHeight ∧ 0 < a.inWidth ∧ 0 < a.outHeight ∧ 0 < a.outWidth ∧ 0 < a.nFilt
  | .globalPooling1D a => (a.poolOp = .max ∨ a.poolOp = .average) ∧ 0 < a.nIn ∧ 0 < a.nFilt
  | .globalPooling2D a =>
    (a.poolOp = .max ∨ a.poolOp = .average) ∧ 0 < a.inHeight ∧ 0 < a.inWidth ∧ 0 < a.nFilt

instance : DecidablePred Admissible
  | .dense _ | .recurrent _ => inferInstanceAs (Decidable (_ ∧ _))
  | .conv1D _ | .conv2D _ | .attention _ => inferInstanceAs (Decidable (_ ∧ _))
  | .pooling1D _ | .pooling2D _ => inferInstanceAs (Decidable ((_ ∨ _) ∧ _))
  | .globalPooling1D _ | .globalPooling2D _ => inferInstanceAs (Decidable ((_ ∨ _) ∧ _))

theorem find?_required_eq_none {a : Attributes} {q : String × Int64 → Bool}
    (hq : ∀ e, q e = decide (e.2 ≤ 0)) :
    (sortOn Prod.fst a.required).find? q = none ↔ ∀ e ∈ a.required, 0 < e.2 := by
  simp only [List.find?_eq_none, hq, (sortOn_perm Prod.fst a.required).mem_iff, decide_eq_true_eq,
    Int64.not_le]

/-- Sorting decides which fault is reported, not whether there is one. -/
theorem check_eq_ok_iff_required {a : Attributes} :
    a.check = .ok () ↔
      (∀ p, a.poolOp? = some p → p = .max ∨ p = .average) ∧ ∀ e ∈ a.required, 0 < e.2 := by
  have hpool : (a.poolOp?.map PoolOp.declared).getD true = true ↔
      ∀ p, a.poolOp? = some p → p = .max ∨ p = .average := by
    cases a.poolOp? <;> simp [PoolOp.declared]
  rw [← hpool, check]
  split_ifs with hp
  · split
    · next h =>
      have hfew : ¬ ∀ e ∈ a.required, 0 < e.2 := by
        rw [← find?_required_eq_none fun _ => rfl, h]
        simp
      exact iff_of_false (by simp) fun hall => hfew hall.2
    · next h =>
      have hall : ∀ e ∈ a.required, 0 < e.2 := (find?_required_eq_none fun _ => rfl).mp h
      exact iff_of_true rfl ⟨hp, hall⟩
  · simp [hp]

/-- **The check passes exactly the admissible records.** -/
theorem check_eq_ok_iff {a : Attributes} : a.check = .ok () ↔ a.Admissible := by
  rw [check_eq_ok_iff_required]
  cases a <;>
    simp [Admissible, poolOp?, required, fields, DenseAttrs.fields, Conv1DAttrs.fields,
      Conv2DAttrs.fields, RecurrentAttrs.fields, AttentionAttrs.fields, Pooling1DAttrs.fields,
      Pooling2DAttrs.fields, GlobalPooling1DAttrs.fields, GlobalPooling2DAttrs.fields, Field.size,
      Field.amount, Field.flag, Field.poolOp, Field.dataFormat]

end Attributes

theorem Variant.ofCode?_eq_some_iff {code : UInt8} {v : Variant} :
    Variant.ofCode? code = some v ↔ code = v.code := by
  constructor
  · intro h
    rw [ofCode?] at h
    have hcode := List.find?_some h
    exact (eq_of_beq hcode).symm
  · rintro rfl
    exact v.ofCode?_code

theorem Variant.declaredWeights_nodup (v : Variant) : v.declaredWeights.Nodup :=
  (sortOn_perm id v.declaredWeights).nodup_iff.mp (v.declaredWeights_sorted.imp ne_of_lt)

/-! ## Layers -/

/-- The layer is as the variant declares: it has a record of the variant's type, which is
admissible, and the declared weights, in any order. -/
structure NodeSpec.Declared (spec : NodeSpec) (v : Variant) (a : Attributes) : Prop where
  variant : spec.variant = v.code
  attrs : spec.attrs = some a
  kind : a.kind = v.record
  admissible : a.Admissible
  weights : (spec.weights.map Tensor.name).Perm v.declaredWeights

namespace Node

/-- **The weights that are accepted** carry the declared names, each once. -/
theorem exists_checkWeights_iff {v : Variant} {weights : List Tensor} :
    (∃ ws, checkWeights v weights = .ok ws) ↔
      (weights.map Tensor.name).Perm v.declaredWeights := by
  constructor
  · rintro ⟨ws, h⟩
    obtain ⟨-, rfl, hs⟩ := checkWeights_eq_ok.mp h
    exact map_sortOn_eq_iff.mp hs
  · intro h
    have hn : (weights.map Tensor.name).Nodup := h.nodup_iff.mpr v.declaredWeights_nodup
    exact ⟨_, checkWeights_eq_ok.mpr ⟨hn, rfl, map_sortOn_eq_iff.mpr h⟩⟩

theorem exists_make_iff {spec : NodeSpec} :
    (∃ n, make spec = .ok n) ↔ ∃ v a, spec.Declared v a := by
  constructor
  · rintro ⟨n, h⟩
    obtain ⟨v, a, hv, ha, hkind, hcheck, -, hs, -⟩ := make_cases h
    exact ⟨v, a, Variant.ofCode?_eq_some_iff.mp hv, ha, hkind, Attributes.check_eq_ok_iff.mp hcheck,
      map_sortOn_eq_iff.mp hs⟩
  · rintro ⟨v, a, hd⟩
    have hv : checkVariant spec.variant = .ok v :=
      checkVariant_eq_ok.mpr (Variant.ofCode?_eq_some_iff.mpr hd.variant)
    have hr : checkRecord v spec.attrs = .ok a :=
      checkRecord_eq_ok.mpr ⟨hd.attrs, hd.kind, Attributes.check_eq_ok_iff.mpr hd.admissible⟩
    obtain ⟨ws, hw⟩ := exists_checkWeights_iff.mpr hd.weights
    simp only [make, hv, hr, hw, ok_bind, pure_eq_ok, mapError_ok]
    exact ⟨_, rfl⟩

theorem toInt_reuse (r : Int64) : (if r ≤ 0 then 1 else r).toInt = max 1 r.toInt := by
  have hle : r ≤ 0 ↔ r.toInt ≤ 0 := Int64.le_iff_toInt_le
  have hone : (1 : Int64).toInt = 1 := rfl
  split_ifs with hr
  · rw [hle] at hr
    omega
  · rw [hle] at hr
    omega

/-- **A layer becomes a node if and only if it is as some variant declares.** The node then has each
weight that was given under its name and none under another name, the names of its weights in
ascending order, its weights in their first order, and a reuse factor of at least one. -/
theorem make_iff_declared (spec : NodeSpec) :
    ((∃ n, make spec = .ok n) ↔ ∃ v a, spec.Declared v a) ∧
    ∀ n, make spec = .ok n →
      (∀ t ∈ spec.weights, n.weight? t.name = some t) ∧
      (∀ name, name ∉ spec.weights.map Tensor.name → n.weight? name = none) ∧
      n.weightNames.Perm (spec.weights.map Tensor.name) ∧ n.weightNames.Pairwise (· < ·) ∧
      n.layout = .untransformed ∧ n.reuseFactor.toInt = max 1 spec.reuseFactor.toInt := by
  refine ⟨exists_make_iff, fun n h => ?_⟩
  obtain ⟨v, a, -, -, -, -, hn, hs, rfl⟩ := make_cases h
  have hperm : (sortOn Tensor.name spec.weights).Perm spec.weights := sortOn_perm _ _
  refine ⟨fun t ht => ?_, fun name hname => ?_, hperm.map _, ?_, rfl, toInt_reuse _⟩
  · exact weight?_eq_some ((hperm.map Tensor.name).nodup_iff.mpr hn) (hperm.mem_iff.mpr ht)
  · refine List.find?_eq_none.mpr fun t ht heq => hname ?_
    exact List.mem_map.mpr ⟨t, hperm.mem_iff.mp ht, eq_of_beq heq⟩
  · rw [weightNames, hs]
    exact v.declaredWeights_sorted

/-- A separable convolution whose weights come in another order than they are declared in. -/
def separableSpec : NodeSpec where
  name := "sep"
  variant := 4
  reuseFactor := -3
  attrs := some (.conv1D
    { inWidth := 4, nChan := 2, filtWidth := 3, nFilt := 2, strideWidth := 1, outWidth := 2 })
  weights := [⟨"bias", [2], #[0, 0]⟩, ⟨"depthwise", [1], #[1]⟩, ⟨"pointwise", [1], #[2]⟩]

theorem make_iff_declared_separable :
    ∃ n, make separableSpec = .ok n ∧ n.weight? "pointwise" = some ⟨"pointwise", [1], #[2]⟩ ∧
      n.weight? "weight" = none ∧ n.reuseFactor.toInt = 1 := by
  obtain ⟨hiff, hholds⟩ := make_iff_declared separableSpec
  obtain ⟨n, hn⟩ := hiff.mpr ⟨.separableConv1D, _, rfl, rfl, rfl, by decide, by decide⟩
  obtain ⟨hgiven, hother, -, -, -, hreuse⟩ := hholds n hn
  refine ⟨n, hn, ?_, ?_, hreuse⟩
  · exact hgiven ⟨"pointwise", [1], #[2]⟩ (by decide)
  · exact hother "weight" (by decide)

end Node

end LayerCode
