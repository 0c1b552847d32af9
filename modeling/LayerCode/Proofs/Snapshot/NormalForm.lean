import LayerCode.Proofs.Cbor.Bounds
import LayerCode.Proofs.Snapshot.Persistence

/-!
# Normal forms of snapshots

Many bytes hold the same graph: heads can be longer than needed, strings and arrays can be open,
keys can be in letters of either case, out of order or there twice, and values can be in half
precision. Whatever the bytes are, the graph that is read from them is one that can be written in
single precision, and the written bytes, its normal form, are read as the same graph.

* `readDocument_within`: a document keeps within the size of its item;
* `readAttributes_declared`: only declared channel orders are read;
* `loadTensor_bounds`, `loadNode_bounds`, **`decode_persistent`**: what is loaded is what the format
  can hold;
* `normalForm?`: the normal form of bytes that hold a graph;
* **`decode_normalForm`**.
-/

namespace LayerCode

open Text Outcome Cbor FieldReader

/-! ## Documents -/

/-- The texts of the buffer take at most `n` bytes. -/
structure Buffer.Within (n : Nat) (p : Buffer) : Prop where
  var : (utf8 p.var).length ≤ n
  type : (utf8 p.type).length ≤ n

theorem Buffer.within_empty {n : Nat} : Within n {} := ⟨Nat.zero_le n, Nat.zero_le n⟩

namespace Snapshot

variable {n : Nat}

structure TensorEntry.Within (n : Nat) (e : TensorEntry) : Prop where
  shape : e.shape.length ≤ maxElements
  data : e.data.length ≤ max n maxElements

structure NodeEntry.Within (n : Nat) (e : NodeEntry) : Prop where
  name : (utf8 e.name).length ≤ n
  strategy : (utf8 e.strategy).length ≤ n
  input : e.input.Within n
  output : e.output.Within n
  attrs : ∀ item, e.attrs = some item → item.Within n
  weights : ∀ w ∈ e.weights, w.2.Within n

structure Document.Within (n : Nat) (d : Document) : Prop where
  name : (utf8 d.name).length ≤ n
  size : d.nodes.length ≤ maxElements
  nodes : ∀ e ∈ d.nodes, e.Within n

section Documents

variable {item : Item} (hw : item.Within n)

include hw in
theorem readBuffer_within {p : Buffer} (h : readBuffer item = .ok p) : p.Within n := by
  refine readRecord_keeps hw ?_ Buffer.within_empty h
  simp only [List.forall_mem_cons]
  exact ⟨keeps_put fun _ _ _ hi hs hp => { hp with var := readText_length hi hs },
    keeps_put fun _ _ _ hi hs hp => { hp with type := readText_length hi hs }, by simp⟩

include hw in
theorem readTensor_within {e : TensorEntry} (h : readTensor item = .ok e) : e.Within n := by
  have hzero : TensorEntry.Within n {} := ⟨Nat.zero_le _, Nat.zero_le _⟩
  have hshape : ∀ (i : Item) (shape : List Int64), i.Within n → readArray id readInt i = .ok shape →
      shape.length ≤ maxElements := by
    intro i shape hi hshape
    exact (readArray_all (P := fun _ => True) hi (fun _ _ _ _ => trivial) hshape).1
  refine readRecord_keeps hw ?_ hzero h
  simp only [List.forall_mem_cons]
  exact ⟨keeps_put fun i _ a hi ha he => { he with shape := hshape i a hi ha },
    keeps_put fun _ _ _ _ _ he => { he with },
    keeps_put fun _ _ _ hi ha he => { he with data := readBytes_length hi ha }, by simp⟩

include hw in
theorem readRaw_within {raw : Item} (h : readRaw item = .ok raw) : raw.Within n := by
  obtain ⟨_, _, h⟩ := bind_eq_ok.mp h
  exact Except.ok.inj h ▸ hw

include hw in
theorem readNode_within {e : NodeEntry} (h : readNode item = .ok e) : e.Within n := by
  have hzero : NodeEntry.Within n {} :=
    ⟨Nat.zero_le n, Nat.zero_le n, Buffer.within_empty, Buffer.within_empty, by simp, by simp⟩
  have hweights : ∀ (i : Item) (es : List (String × TensorEntry)), i.Within n →
      readMap id readTensor i = .ok es → ∀ w ∈ orderEntries es, w.2.Within n := by
    intro i es hi hes w hw
    refine readMap_all hi (fun j e hj he => readTensor_within hj he) hes w ?_
    exact mem_of_mem_orderEntries hw
  refine readRecord_keeps hw ?_ hzero h
  simp only [List.forall_mem_cons]
  exact ⟨keeps_put fun _ _ _ hi ha he => { he with name := readText_length hi ha },
    keeps_put fun _ _ _ _ _ he => { he with },
    keeps_put fun _ _ _ _ _ he => { he with },
    keeps_put fun _ _ _ hi ha he => { he with strategy := readText_length hi ha },
    keeps_put fun _ _ _ _ _ he => { he with },
    keeps_put fun _ _ _ hi ha he => { he with input := readBuffer_within hi ha },
    keeps_put fun _ _ _ hi ha he => { he with output := readBuffer_within hi ha },
    keeps_put fun _ _ _ hi ha he =>
      { he with attrs := fun _ h => Option.some.inj h ▸ readRaw_within hi ha },
    keeps_put fun i _ a hi ha he => { he with weights := hweights i a hi ha },
    keeps_put fun _ _ _ _ _ he => { he with }, by simp⟩

include hw in
/-- **A document keeps within the size of its item.** -/
theorem readDocument_within {d : Document} (h : readDocument item = .ok d) : d.Within n := by
  have hzero : Document.Within n {} := ⟨Nat.zero_le n, Nat.zero_le _, by simp⟩
  have hnodes : ∀ (i : Item) (es : List NodeEntry), i.Within n → readArray id readNode i = .ok es →
      es.length ≤ maxElements ∧ ∀ e ∈ es, e.Within n := by
    intro i es hi hes
    exact readArray_all hi (fun j e hj he => readNode_within hj he) hes
  refine readRecord_keeps hw ?_ hzero h
  simp only [List.forall_mem_cons]
  exact ⟨keeps_put fun _ _ _ hi ha hd => { hd with name := readText_length hi ha },
    keeps_put fun i _ a hi ha hd => ⟨hd.name, (hnodes i a hi ha).1, (hnodes i a hi ha).2⟩, by simp⟩

end Documents

/-! ## Attribute records -/

theorem readFieldValue_declared {like : FieldValue} {item : Item} {f : DataFormat}
    (h : readFieldValue like item = .ok (.dataFormat f)) : f.Declared := by
  cases like with
  | count _ | flag _ =>
    obtain ⟨_, _, h⟩ := map_eq_ok.mp h
    simp at h
  | poolOp _ =>
    obtain ⟨_, _, h⟩ := bind_eq_ok.mp h
    obtain ⟨_, _, h⟩ := map_eq_ok.mp h
    simp at h
  | dataFormat _ =>
    obtain ⟨text, _, h⟩ := bind_eq_ok.mp h
    obtain ⟨g, hg, h⟩ := map_eq_ok.mp h
    obtain rfl := FieldValue.dataFormat.inj h
    exact DataFormat.declared_of_parse (mapError_eq_ok.mp hg)

/-- Every channel order among the values is a declared one. -/
def DeclaredFormats (e : Entries) : Prop := ∀ tag f, (tag, FieldValue.dataFormat f) ∈ e → f.Declared

theorem DeclaredFormats.dataFormat {e : Entries} (h : DeclaredFormats e) :
    e.dataFormat.Declared := by
  unfold Entries.dataFormat
  split
  · next f hf =>
    obtain ⟨before, after, rfl, -⟩ := List.lookup_eq_some_iff.mp hf
    exact h "data_format" f (by simp)
  · exact .inl rfl

/-- The channel order of a record that is read is a declared one. -/
theorem readAttributes_declared {kind : RecordKind} {item : Item} (hw : item.Within n)
    {a : Attributes} (h : readAttributes kind (some item) = .ok a) :
    ∀ f, a.dataFormat? = some f → f.Declared := by
  obtain ⟨e, he, h⟩ := bind_eq_ok.mp h
  obtain rfl := Except.ok.inj h
  have hdeclared : DeclaredFormats e := by
    refine readRecord_keeps hw ?_ (by simp [DeclaredFormats]) he
    simp only [List.forall_mem_map]
    intro field _
    refine keeps_put fun i r v _ hv hr => ?_
    intro tag f hf
    rcases List.mem_cons.mp hf with heq | hf
    · exact readFieldValue_declared (hv.trans (by rw [(Prod.mk.inj heq).2]))
    · exact hr tag f hf
  intro f hf
  have heq : f = e.dataFormat := by
    cases kind <;> simp_all [Attributes.ofEntries, Attributes.dataFormat?]
  exact heq ▸ hdeclared.dataFormat

/-! ## Loading -/

section Loading

variable (hn : 2 * n ≤ maxLength)

include hn in
theorem loadTensor_bounds {e : String × TensorEntry} (he : e.2.Within n) {t : Tensor}
    (h : loadTensor e = .ok t) : t.rank ≤ maxElements ∧ 4 * t.data.size ≤ maxLength := by
  obtain ⟨data, hdata, hmake⟩ := bind_eq_ok.mp h
  obtain ⟨rfl, -⟩ := Tensor.make_eq_ok_iff.mp (mapError_eq_ok.mp hmake)
  refine ⟨he.shape, ?_⟩
  -- halves become singles, so the values take twice the room of the bytes that they are read from
  have hsize := Payload.read_size (mapError_eq_ok.mp hdata)
  have hlen := he.data
  unfold maxElements at hlen
  unfold maxLength at hn ⊢
  dsimp only
  omega

include hn in
theorem loadNode_bounds {e : NodeEntry} (he : e.Within n) {m : Node} (h : loadNode e = .ok m) :
    m.Storable ∧ m.Addressable ∧ m.DeclaredFormat := by
  obtain ⟨variant, -, h⟩ := bind_eq_ok.mp h
  obtain ⟨attrs, hattrs, h⟩ := bind_eq_ok.mp h
  obtain ⟨weights, hweights, h⟩ := bind_eq_ok.mp h
  obtain ⟨k, hmake, h⟩ := bind_eq_ok.mp h
  obtain ⟨v, a, -, ha, -, -, -, -, rfl⟩ := Node.make_cases (mapError_eq_ok.mp hmake)
  have hle : n ≤ maxLength := by omega
  have hbounds : ∀ t ∈ sortOn Tensor.name weights,
      t.rank ≤ maxElements ∧ 4 * t.data.size ≤ maxLength := by
    intro t ht
    rw [(sortOn_perm Tensor.name weights).mem_iff] at ht
    obtain ⟨w, hw, hload⟩ := exists_of_mem_right (mapM_eq_ok_iff.mp hweights) ht
    exact loadTensor_bounds hn (he.weights w hw) hload
  have hdeclared : ∀ f, a.dataFormat? = some f → f.Declared := by
    obtain rfl := Option.some.inj ha
    cases hitem : e.attrs with
    | none => simp [hitem, readAttributes] at hattrs
    | some item =>
      rw [hitem] at hattrs
      exact readAttributes_declared (he.attrs item hitem) (mapError_eq_ok.mp hattrs)
  have hinput : e.input.Addressable := ⟨he.input.var.trans hle, he.input.type.trans hle⟩
  have houtput : e.output.Addressable := ⟨he.output.var.trans hle, he.output.type.trans hle⟩
  rw [pure_eq_ok, Except.ok.injEq] at h
  split_ifs at h
  all_goals
    subst h
    refine ⟨fun t ht => (hbounds t ht).1, ⟨he.name.trans hle, he.strategy.trans hle, hinput,
      houtput, fun t ht => (hbounds t ht).2⟩, fun b f hb hf => ?_⟩
    obtain rfl := Option.some.inj hb
    exact hdeclared f hf

/-- **A graph that is read from bytes is one that the format can hold, with declared channel
orders.** -/
theorem decode_persistent {bytes : List UInt8} (hb : 2 * bytes.length ≤ maxLength) {g : Graph}
    (h : decode bytes = .ok g) : g.Persistent ∧ ∀ n ∈ g.nodes, n.DeclaredFormat := by
  have hw := decode_wellFormed h
  obtain ⟨⟨item, rest⟩, hscan, h⟩ := bind_eq_ok.mp h
  obtain ⟨d, hread, h⟩ := bind_eq_ok.mp h
  obtain ⟨ns, hload, hmake⟩ := bind_eq_ok.mp h
  obtain ⟨-, rfl⟩ := Graph.make_eq_ok_iff.mp (mapError_eq_ok.mp hmake)
  have hitem := scan_within (mapError_eq_ok.mp hscan)
  have hd := readDocument_within hitem (mapError_eq_ok.mp hread)
  have hforall := forall₂_loadNodes hload
  have hbounds : ∀ m ∈ ns, m.Storable ∧ m.Addressable ∧ m.DeclaredFormat := by
    intro m hm
    obtain ⟨e, he, hem⟩ := exists_of_mem_right hforall hm
    exact loadNode_bounds hb (hd.nodes e he) hem
  have hnodes : ∀ m, m ∈ Graph.nodes ⟨d.name, ns.map fun n => (n.name, n)⟩ ↔ m ∈ ns := by
    simp [Graph.nodes]
  have hsize : Graph.size ⟨d.name, ns.map fun n => (n.name, n)⟩ ≤ maxElements := by
    rw [Graph.size, List.length_map, ← hforall.length_eq]
    exact hd.size
  have hname : Addressable d.name := hd.name.trans (by omega)
  refine ⟨⟨hw, ⟨hsize, fun m hm => ?_⟩, ⟨hname, fun m hm => ?_⟩⟩, fun m hm => ?_⟩
  · exact (hbounds m ((hnodes m).mp hm)).1
  · exact (hbounds m ((hnodes m).mp hm)).2.1
  · exact (hbounds m ((hnodes m).mp hm)).2.2

end Loading

/-! ## Normal forms -/

theorem placeByKey_perm (t : Tensor) (ts : List Tensor) : (placeByKey t ts).Perm (t :: ts) := by
  induction ts with
  | nil => exact .refl _
  | cons u us ih =>
    rw [placeByKey]
    split_ifs
    · exact .refl _
    · exact (ih.cons u).trans (.swap t u us)

theorem byKey_perm (ts : List Tensor) : (byKey ts).Perm ts := by
  induction ts with
  | nil => exact .refl _
  | cons t ts ih => exact (placeByKey_perm t (byKey ts)).trans (ih.cons t)

/-- The bytes of the graph that bytes hold, in single precision and with weights in the order of
their names. -/
def normalForm? (bytes : List UInt8) : Option (List UInt8) :=
  (decode bytes).toOption.bind fun g => (encode "fp32" g).toOption

end Snapshot

open Snapshot

/-- Weights with shorter names first, as the plain writer has them. -/
def Arrangement.byKey : Arrangement :=
  ⟨fun n => Snapshot.byKey n.weights, fun n => byKey_perm n.weights⟩

theorem Graph.Persistent.decode_graphBytes {g : Graph} (hp : g.Persistent)
    (hd : ∀ n ∈ g.nodes, n.DeclaredFormat) (a : Arrangement) :
    decode (graphBytes .single a.order g) = .ok g := by
  rw [Snapshot.decode_graphBytes .single hp.wellFormed hp.storable hp.addressable
      fun n _ => a.perm n,
    Graph.mapNodes_eq_self fun n hn => Node.kept_single (hd n hn)]

/-- **Bytes that hold a graph have a normal form.** The graph that is read from them, whatever the
bytes are, can be written in single precision, with the weights in any order; what is written is
read as the graph again, and has the same normal form. No memory has room for bytes that are longer
than half of the largest length. -/
theorem Snapshot.decode_normalForm {bytes : List UInt8} (hb : 2 * bytes.length ≤ maxLength)
    {g : Graph} (h : decode bytes = .ok g) :
    ∃ normal, encode "fp32" g = .ok normal ∧ decode normal = .ok g ∧
      normalForm? bytes = some normal ∧
      ∀ a : Arrangement, ∃ out, encodeWith a.order "fp32" g = .ok out ∧ decode out = .ok g ∧
        normalForm? out = some normal := by
  obtain ⟨hp, hd⟩ := decode_persistent hb h
  have hencode : encode "fp32" g = .ok (graphBytes .single Arrangement.byKey.order g) :=
    encodeWith_name .single
  have hform : ∀ out, decode out = .ok g →
      normalForm? out = some (graphBytes .single Arrangement.byKey.order g) := by
    intro out hout
    rw [normalForm?, hout, Except.toOption, Option.bind_some, hencode, Except.toOption]
  refine ⟨_, hencode, hp.decode_graphBytes hd .byKey, hform bytes h, fun a => ?_⟩
  have hout := hp.decode_graphBytes hd a
  exact ⟨_, encodeWith_name .single, hout, hform _ hout⟩

/-- A dense layer in loose spelling: open maps, arrays and texts, keys in capitals, a big number, a
second variant that does not count, a longer head than needed, values in half precision, and bytes
as an array of numbers. -/
def looseSnapshot : List UInt8 :=
  [0xbf] ++ Write.text "Name" ++ [0x7f] ++ Write.text "n" ++ Write.text "et" ++ [0xff] ++
  Write.text "nodes" ++ [0x9f, 0xbf] ++ Write.text "name" ++ Write.text "fc" ++
  Write.text "index" ++ [0xc2, 0x41, 0x01] ++ Write.text "variant" ++ Write.text "Dense" ++
  Write.text "VARIANT" ++ Write.text "GRU" ++
  Write.text "attrs" ++ [0xa2] ++ Write.text "n_in" ++ [0x18, 0x02] ++
  Write.text "n_out" ++ [0x01] ++
  Write.text "weights" ++ [0xa2] ++ Write.text "weight" ++ [0xa3] ++
  Write.text "shape" ++ [0x82, 0x02, 0x01] ++ Write.text "encoding" ++ Write.text "fp16" ++
  Write.text "data" ++ [0x44, 0x00, 0x3c, 0x00, 0x80] ++
  Write.text "bias" ++ [0xa2] ++ Write.text "shape" ++ [0x81, 0x01] ++
  Write.text "data" ++ [0x84, 0x00, 0x00, 0x18, 0x80, 0x18, 0x3f] ++ [0xff, 0xff, 0xff]

/-- The dense layer is read from its normal form as from the loose spelling. -/
theorem Snapshot.decode_normalForm_loose :
    2 * looseSnapshot.length ≤ maxLength ∧ ∃ g normal, decode looseSnapshot = .ok g ∧
      normalForm? looseSnapshot = some normal ∧ decode normal = .ok g ∧
      normalForm? normal = some normal := by
  have hb : 2 * looseSnapshot.length ≤ maxLength := by decide +kernel
  have hok : (decode looseSnapshot).isOk = true := by decide +kernel
  obtain ⟨g, hg⟩ := exists_of_isOk hok
  obtain ⟨normal, hencode, hnormal, hform, harrange⟩ := decode_normalForm hb hg
  obtain ⟨out, hout, -, hagain⟩ := harrange Arrangement.byKey
  obtain rfl : out = normal := Except.ok.inj (hout.symm.trans hencode)
  exact ⟨hb, g, out, hg, hform, hnormal, hagain⟩

end LayerCode
