import LayerCode.Proofs.Compile.Lossless
import LayerCode.Proofs.Snapshot.NormalForm

/-!
# How the channel order of a node is read

The channel order of a record is held as a number. Two numbers are declared, and making a node does
not look at it. A snapshot holds the name of the order, which is that of channels first for one
number only; a target takes every number but that of channels last for channels first. So the two
agree on the declared numbers, and on no others.

* `Attributes.withFormat`, `Node.make_withFormat`: making a node does not look at the channel order;
* `Node.WrittenFirst`, `writtenFirst_iff`: the nodes that are written with the channels first;
* `Target.validate_eq_first_iff`, `Target.exists_error_iff`: the nodes that a target takes for such;
* `Target.validate_kept_iff`: what is read back of a node is taken for the same;
* **`Node.channelOrder_agrees_iff`**: all this agrees if and only if the channel order is declared.
-/

namespace LayerCode

open Text Outcome Snapshot

/-! ## Any number is accepted -/

/-- The record with another channel order, if it has one. -/
def Attributes.withFormat (f : DataFormat) : Attributes → Attributes
  | .conv1D a => .conv1D { a with dataFormat := f }
  | .conv2D a => .conv2D { a with dataFormat := f }
  | .pooling1D a => .pooling1D { a with dataFormat := f }
  | .pooling2D a => .pooling2D { a with dataFormat := f }
  | .globalPooling1D a => .globalPooling1D { a with dataFormat := f }
  | .globalPooling2D a => .globalPooling2D { a with dataFormat := f }
  | .dense a => .dense a
  | .recurrent a => .recurrent a
  | .attention a => .attention a

namespace Attributes

variable (a : Attributes) (f : DataFormat)

theorem kind_withFormat : (a.withFormat f).kind = a.kind := by
  cases a <;> rfl

theorem poolOp?_withFormat : (a.withFormat f).poolOp? = a.poolOp? := by
  cases a <;> rfl

theorem required_withFormat : (a.withFormat f).required = a.required := by
  cases a <;> rfl

theorem check_withFormat : (a.withFormat f).check = a.check := by
  rw [check, check, poolOp?_withFormat, required_withFormat]

end Attributes

theorem Node.checkRecord_withFormat (f : DataFormat) {v : Variant} {attrs : Option Attributes}
    {a : Attributes} (h : checkRecord v attrs = .ok a) :
    checkRecord v (attrs.map (Attributes.withFormat f)) = .ok (a.withFormat f) := by
  obtain ⟨rfl, hkind, hcheck⟩ := checkRecord_eq_ok.mp h
  refine checkRecord_eq_ok.mpr ⟨rfl, ?_, ?_⟩
  · rw [Attributes.kind_withFormat, hkind]
  · rw [Attributes.check_withFormat, hcheck]

/-- **Making a node does not look at the channel order.** -/
theorem Node.make_withFormat (f : DataFormat) {spec : NodeSpec} {n : Node}
    (h : make spec = .ok n) :
    make { spec with attrs := spec.attrs.map (Attributes.withFormat f) } =
      .ok { n with attrs := n.attrs.map (Attributes.withFormat f) } := by
  rw [make, mapError_eq_ok] at h ⊢
  obtain ⟨v, hv, h⟩ := bind_eq_ok.mp h
  obtain ⟨a, ha, h⟩ := bind_eq_ok.mp h
  obtain ⟨ws, hw, h⟩ := bind_eq_ok.mp h
  obtain rfl := Except.ok.inj h
  simp only [hv, ok_bind, checkRecord_withFormat f ha, hw]
  rfl

/-! ## What is written -/

/-- The bytes of the record hold the channel order, and name it channels first. -/
def Node.WrittenFirst (n : Node) : Prop :=
  ∃ a, n.attrs = some a ∧
    ("data_format", Cbor.Write.text "channels_first") ∈
      a.fields.map fun f => (f.tag, fieldBytes f.value)

theorem Attributes.tag_eq_dataFormat_iff {a : Attributes} {f : Field} (h : f ∈ a.fields) :
    f.tag = "data_format" ↔ ∃ o, f.value = .dataFormat o := by
  have hzero : ∀ k : RecordKind, ∀ g ∈ (zero k).fields,
      g.tag = "data_format" ↔ g.value = .dataFormat .channelsLast := by
    intro k
    cases k <;> decide +kernel
  have hblank : f.blank ∈ (zero a.kind).fields := a.map_blank_fields ▸ List.mem_map_of_mem h
  refine (hzero a.kind f.blank hblank).trans ?_
  show f.value.blank = _ ↔ _
  cases f.value <;> simp [FieldValue.blank]

theorem Node.writtenFirst_iff {n : Node} :
    n.WrittenFirst ↔ n.attrs.bind Attributes.dataFormat? = some .channelsFirst := by
  have hname : ∀ o : DataFormat,
      fieldBytes (.dataFormat o) = Cbor.Write.text "channels_first" ↔ o = .channelsFirst := by
    intro o
    have hother : Cbor.Write.text "channels_last" ≠ Cbor.Write.text "channels_first" := by
      decide +kernel
    by_cases ho : o = .channelsFirst
    · simp [fieldBytes, DataFormat.name, ho]
    · simp [fieldBytes, DataFormat.name, ho, hother]
  constructor
  · rintro ⟨a, ha, hmem⟩
    obtain ⟨f, hf, heq⟩ := List.mem_map.mp hmem
    obtain ⟨htag, hbytes⟩ := Prod.mk.inj heq
    obtain ⟨o, ho⟩ := (Attributes.tag_eq_dataFormat_iff hf).mp htag
    rw [ho, hname] at hbytes
    rw [ha, ← hbytes]
    exact Attributes.dataFormat?_eq_some_iff.mpr ⟨f, hf, ho⟩
  · intro h
    obtain ⟨a, ha, hformat⟩ := Option.bind_eq_some_iff.mp h
    obtain ⟨f, hf, hvalue⟩ := Attributes.dataFormat?_eq_some_iff.mp hformat
    refine ⟨a, ha, List.mem_map.mpr ⟨f, hf, Prod.ext ?_ ?_⟩⟩
    · exact (Attributes.tag_eq_dataFormat_iff hf).mpr ⟨_, hvalue⟩
    · exact hvalue ▸ (hname _).mpr rfl

/-! ## What a target takes it for -/

/-- The number of the channel order is not that of channels last. -/
def Node.NotLast (n : Node) : Prop :=
  ∃ f, n.attrs.bind Attributes.dataFormat? = some f ∧ f ≠ .channelsLast

namespace Target

variable {t : Target} {n : Node}

theorem validate_of_not_notLast (h : ¬ n.NotLast) : t.validate n = .ok .last := by
  unfold validate
  split
  · rfl
  · next f hf =>
    have hlast : f = .channelsLast := by
      by_contra hne
      exact h ⟨f, hf, hne⟩
    rw [if_pos hlast]

theorem validate_of_notLast (h : n.NotLast) : ∃ f,
    t.validate n = if t.channelsFirst then .ok .first else .error ⟨f, t.name, n.name⟩ := by
  obtain ⟨f, hf, hne⟩ := h
  exact ⟨f, by simp only [validate, hf, if_neg hne]⟩

theorem validate_eq_last_iff : t.validate n = .ok .last ↔ ¬ n.NotLast := by
  refine ⟨fun h hn => ?_, validate_of_not_notLast⟩
  obtain ⟨f, hf⟩ := validate_of_notLast (t := t) hn
  rw [h] at hf
  split_ifs at hf
  exact absurd hf (by decide)

theorem validate_eq_first_iff (ht : t.channelsFirst = true) :
    t.validate n = .ok .first ↔ n.NotLast := by
  refine ⟨fun h => ?_, fun hn => ?_⟩
  · by_contra hn
    rw [validate_of_not_notLast hn] at h
    exact absurd h (by decide)
  · obtain ⟨f, hf⟩ := validate_of_notLast (t := t) hn
    rw [hf, if_pos ht]

theorem exists_error_iff (ht : t.channelsFirst = false) :
    (∃ fault, t.validate n = .error fault) ↔ n.NotLast := by
  refine ⟨fun ⟨fault, h⟩ => ?_, fun hn => ?_⟩
  · by_contra hn
    rw [validate_of_not_notLast hn] at h
    exact absurd h (by simp)
  · obtain ⟨f, hf⟩ := validate_of_notLast (t := t) hn
    exact ⟨_, hf.trans (if_neg (Bool.not_eq_true _ ▸ ht))⟩

end Target

/-! ## Agreement -/

namespace Node

variable {n : Node}

theorem declaredFormat_iff :
    n.DeclaredFormat ↔ ∀ f, n.attrs.bind Attributes.dataFormat? = some f → f.Declared := by
  constructor
  · intro h f hf
    obtain ⟨a, ha, hf⟩ := Option.bind_eq_some_iff.mp hf
    exact h a f ha hf
  · intro h a f ha hf
    exact h f (by rw [ha]; exact hf)

/-- What is written and what a target takes it for agree on the declared channel orders only. -/
theorem notLast_iff_writtenFirst_iff : (n.NotLast ↔ n.WrittenFirst) ↔ n.DeclaredFormat := by
  have hne : DataFormat.channelsFirst ≠ .channelsLast := by decide
  rw [writtenFirst_iff, declaredFormat_iff, NotLast]
  cases n.attrs.bind Attributes.dataFormat? with
  | none => simp
  | some f =>
    simp only [Option.some.injEq, exists_eq_left', forall_eq', DataFormat.Declared]
    grind

theorem bind_dataFormat?_kept (p : Precision) :
    (n.kept p).attrs.bind Attributes.dataFormat? =
      (n.attrs.bind Attributes.dataFormat?).map DataFormat.named := by
  have hnamed : ∀ a : Attributes, a.named.dataFormat? = a.dataFormat?.map DataFormat.named := by
    intro a
    cases a <;> rfl
  show (n.attrs.map Attributes.named).bind Attributes.dataFormat? = _
  cases n.attrs with
  | none => rfl
  | some a => exact hnamed a

/-- What is read back has the channels first if that was written. -/
theorem notLast_kept_iff (p : Precision) : (n.kept p).NotLast ↔ n.WrittenFirst := by
  rw [writtenFirst_iff, NotLast, bind_dataFormat?_kept]
  cases n.attrs.bind Attributes.dataFormat? with
  | none => simp
  | some f =>
    have hnamed : f.named ≠ .channelsLast ↔ f = .channelsFirst := by
      unfold DataFormat.named
      split_ifs with hf
      · simpa [hf] using show DataFormat.channelsFirst ≠ .channelsLast by decide
      · simp [hf]
    simpa using hnamed

end Node

theorem Target.validate_kept_iff (t : Target) (p : Precision) {n : Node} :
    t.validate (n.kept p) = t.validate n ↔ n.DeclaredFormat := by
  constructor
  · intro h
    -- Whether the answer is channels last tells what each of the two nodes is taken for.
    have hlast := validate_eq_last_iff (t := t) (n := n.kept p)
    rw [h, validate_eq_last_iff, Node.notLast_kept_iff, not_iff_not] at hlast
    exact Node.notLast_iff_writtenFirst_iff.mp hlast
  · intro h
    have hattrs : (n.kept p).attrs = n.attrs := h.named_attrs
    simp only [validate, hattrs]
    rfl

/-- **The readings of a channel order agree if and only if it is declared.** No number is refused when
a node is made. Both targets take a node for one with the channels first, the one by the name of its
kernel and the other by its refusal, as the bytes of its record name it, if and only if the number is
a declared one; and if and only if it is, they do the same with the node that is read back from a
snapshot. -/
theorem Node.channelOrder_agrees_iff {spec : NodeSpec} {n : Node} (h : Node.make spec = .ok n) :
    (∀ f, Node.make { spec with attrs := spec.attrs.map (Attributes.withFormat f) } =
      .ok { n with attrs := n.attrs.map (Attributes.withFormat f) }) ∧
    ((Target.vivado.validate n = .ok .first ↔ n.WrittenFirst) ↔ n.DeclaredFormat) ∧
    (((∃ fault, Target.quartus.validate n = .error fault) ↔ n.WrittenFirst) ↔ n.DeclaredFormat) ∧
    ∀ (g : Graph) (i : Nat), g.Built → g.Storable → g.Addressable → g.node? i = some n →
      ∀ (a : Arrangement) (p : Precision), ∃ bytes back m,
        encodeWith a.order p.name g = .ok bytes ∧ decode bytes = .ok back ∧
          back.node? i = some m ∧
          ∀ t ∈ Target.all, t.validate m = t.validate n ↔ n.DeclaredFormat := by
  refine ⟨fun f => Node.make_withFormat f h, ?_, ?_, fun g i hb hs ha hi a p => ?_⟩
  · rw [Target.validate_eq_first_iff rfl]
    exact Node.notLast_iff_writtenFirst_iff
  · rw [Target.exists_error_iff rfl]
    exact Node.notLast_iff_writtenFirst_iff
  · obtain ⟨m, hm, rfl⟩ := (Graph.Changed.mapNodes (g := g) (Node.kept p)).exists_after hi
    exact ⟨graphBytes p a.order g, g.mapNodes (Node.kept p), _, encodeWith_name p,
      decode_graphBytes p hb.wellFormed hs ha fun n _ => a.perm n, hm,
      fun t _ => t.validate_kept_iff p⟩

/-- A pooling layer with the channel order of a number. -/
def orderedLayer (f : DataFormat) : Node :=
  { Compile.poolingLayer with attrs := Compile.poolingLayer.attrs.map (Attributes.withFormat f) }

/-- A graph of that layer. -/
def Graph.orderedGraph (f : DataFormat) : Graph := ⟨"net", [("pool", orderedLayer f)]⟩

section Ordered

variable (f : DataFormat)

theorem Graph.orderedGraph_built : (orderedGraph f).Built := by
  have hn := Compile.poolingLayer_wellFormed
  obtain ⟨a, ha, hkind, hcheck⟩ := hn.record
  have hw : (orderedLayer f).WellFormed :=
    ⟨⟨a.withFormat f, congrArg (Option.map (Attributes.withFormat f)) ha,
      (a.kind_withFormat f).trans hkind, (a.check_withFormat f).trans hcheck⟩,
      hn.names, hn.tensors, hn.reuse⟩
  refine WellFormed.built ⟨?_, ?_, ?_⟩ ?_
  · simp [orderedGraph, orderedLayer, Compile.poolingLayer]
  · simp [orderedGraph]
  · simpa [orderedGraph] using hw
  · simp [orderedGraph, nodes, orderedLayer, Compile.poolingLayer]

theorem Graph.orderedGraph_storable : (orderedGraph f).Storable :=
  ⟨show 1 ≤ Cbor.maxElements by decide,
    by simp [orderedGraph, nodes, orderedLayer, Node.Storable, Compile.poolingLayer]⟩

theorem Graph.orderedGraph_addressable : (orderedGraph f).Addressable := by
  have hn : Compile.poolingLayer.Addressable :=
    ⟨by decide +kernel, by decide +kernel, ⟨by decide +kernel, by decide +kernel⟩,
      ⟨by decide +kernel, by decide +kernel⟩, by simp [Compile.poolingLayer]⟩
  have hf : (orderedLayer f).Addressable := ⟨hn.name, hn.strategy, hn.input, hn.output, hn.payloads⟩
  exact ⟨show Cbor.Addressable "net" by decide +kernel, by simpa [orderedGraph, nodes] using hf⟩

end Ordered

/-- A declared order is read in the same way everywhere, before and after it was stored. -/
theorem Node.channelOrder_agrees_iff_first :
    Node.make (orderedLayer .channelsFirst).spec = .ok (orderedLayer .channelsFirst) ∧
      (orderedLayer .channelsFirst).DeclaredFormat ∧
      (Graph.orderedGraph .channelsFirst).Built ∧ (Graph.orderedGraph .channelsFirst).Storable ∧
      (Graph.orderedGraph .channelsFirst).Addressable ∧
      (Target.vivado.validate (orderedLayer .channelsFirst) = .ok .first ↔
        (orderedLayer .channelsFirst).WrittenFirst) ∧
      ((∃ fault, Target.quartus.validate (orderedLayer .channelsFirst) = .error fault) ↔
        (orderedLayer .channelsFirst).WrittenFirst) ∧
      ∃ bytes back m,
        encodeWith Arrangement.reversed.order "fp16" (Graph.orderedGraph .channelsFirst) =
          .ok bytes ∧
        decode bytes = .ok back ∧ back.node? 0 = some m ∧
        Target.vivado.validate m = .ok .first ∧
        Target.quartus.validate m = .error ⟨.channelsFirst, "quartus", "pool"⟩ := by
  have hn : Node.make (orderedLayer .channelsFirst).spec = .ok (orderedLayer .channelsFirst) := by
    decide +kernel
  have hd : (orderedLayer .channelsFirst).DeclaredFormat := by
    rw [declaredFormat_iff]
    intro f hf
    exact .inr (Option.some.inj hf).symm
  have hb := Graph.orderedGraph_built .channelsFirst
  have hs := Graph.orderedGraph_storable .channelsFirst
  have ha := Graph.orderedGraph_addressable .channelsFirst
  obtain ⟨-, hvivado, hquartus, hstored⟩ := Node.channelOrder_agrees_iff hn
  obtain ⟨bytes, back, m, hencode, hdecode, hm, hsame⟩ :=
    hstored _ 0 hb hs ha rfl .reversed .half
  refine ⟨hn, hd, hb, hs, ha, hvivado.mpr hd, hquartus.mpr hd, bytes, back, m, hencode, hdecode, hm,
    ?_, ?_⟩
  · exact ((hsame .vivado (by decide)).mpr hd).trans rfl
  · exact ((hsame .quartus (by decide)).mpr hd).trans rfl

/-- The third number is written as channels last. Both targets take it for channels first, the one
with a message that names channels last, until the layer is read back from a snapshot. -/
theorem Node.channelOrder_undeclared :
    Node.make (orderedLayer ⟨2⟩).spec = .ok (orderedLayer ⟨2⟩) ∧
      ¬ (orderedLayer ⟨2⟩).WrittenFirst ∧
      Target.vivado.validate (orderedLayer ⟨2⟩) = .ok .first ∧
      (∃ fault, Target.quartus.validate (orderedLayer ⟨2⟩) = .error fault ∧ fault.message =
        "not supported: data_format=channels_last for Quartus on node \"pool\"") ∧
      ∃ bytes back m, encode "fp32" (Graph.orderedGraph ⟨2⟩) = .ok bytes ∧
        decode bytes = .ok back ∧ back.node? 0 = some m ∧
        Target.vivado.validate m = .ok .last ∧ Target.quartus.validate m = .ok .last := by
  have hwritten : ¬ (orderedLayer ⟨2⟩).WrittenFirst := by
    rw [writtenFirst_iff]
    decide
  refine ⟨by decide +kernel, hwritten, rfl, ⟨_, rfl, by decide +kernel⟩,
    graphBytes .single (fun n => byKey n.weights) (Graph.orderedGraph ⟨2⟩),
    (Graph.orderedGraph ⟨2⟩).mapNodes (Node.kept .single), (orderedLayer ⟨2⟩).kept .single,
    encodeWith_name .single, ?_, rfl, ?_, ?_⟩
  · exact decode_graphBytes .single (Graph.orderedGraph_built ⟨2⟩).wellFormed
      (Graph.orderedGraph_storable ⟨2⟩) (Graph.orderedGraph_addressable ⟨2⟩)
      fun n _ => byKey_perm n.weights
  · exact Target.validate_eq_last_iff.mpr (mt (notLast_kept_iff .single).mp hwritten)
  · exact Target.validate_eq_last_iff.mpr (mt (notLast_kept_iff .single).mp hwritten)

end LayerCode
