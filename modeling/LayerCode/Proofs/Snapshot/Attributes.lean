import Mathlib.Data.List.Forall2
import LayerCode.Proofs.Cbor.Read
import LayerCode.Snapshot.Read
import LayerCode.Snapshot.Write

/-!
# Attribute records read back

A record is written field by field and read back as the same record. Only an undeclared channel
order is lost: it is written under the name of the channels-last order.

* `DataFormat.Declared`, `DataFormat.named`, `Attributes.named`: the declared channel orders, and
  what the name of a channel order says;
* `scans_fields`: the bytes of a record are scanned as its entries;
* **`readAttributes_fields`**: the entries of a record are read as the record.
-/

namespace LayerCode

open Text Outcome

/-! ## Named options -/

/-- The channel order is a declared one. -/
def DataFormat.Declared (f : DataFormat) : Prop := f = .channelsLast ∨ f = .channelsFirst

/-- The channel order that the name of a channel order says. -/
def DataFormat.named (f : DataFormat) : DataFormat :=
  if f = .channelsFirst then .channelsFirst else .channelsLast

theorem DataFormat.named_of_declared {f : DataFormat} (h : f.Declared) : f.named = f := by
  rcases h with rfl | rfl <;> rfl

theorem DataFormat.parse_name (f : DataFormat) : DataFormat.parse f.name = .ok f.named := by
  unfold DataFormat.name DataFormat.named
  split_ifs <;> rfl

theorem DataFormat.declared_of_parse {text : String} {f : DataFormat} (h : DataFormat.parse text = .ok f) :
    f.Declared := by
  unfold DataFormat.parse at h
  split_ifs at h
  · exact .inl (Except.ok.inj h).symm
  · exact .inr (Except.ok.inj h).symm

theorem PoolOp.eq_of_declared {p : PoolOp} (h : p.declared = true) : p = .max ∨ p = .average := by
  simpa [PoolOp.declared] using h

theorem PoolOp.parse_name {p : PoolOp} (h : p.declared = true) : PoolOp.parse p.name = .ok p := by
  rcases PoolOp.eq_of_declared h with rfl | rfl <;> rfl

/-- The value of a field, with a channel order as its name says. -/
def FieldValue.named : FieldValue → FieldValue
  | .dataFormat f => .dataFormat f.named
  | v => v

namespace Attributes

/-- The record, with a channel order as its name says. -/
def named : Attributes → Attributes
  | .conv1D a => .conv1D { a with dataFormat := a.dataFormat.named }
  | .conv2D a => .conv2D { a with dataFormat := a.dataFormat.named }
  | .pooling1D a => .pooling1D { a with dataFormat := a.dataFormat.named }
  | .pooling2D a => .pooling2D { a with dataFormat := a.dataFormat.named }
  | .globalPooling1D a => .globalPooling1D { a with dataFormat := a.dataFormat.named }
  | .globalPooling2D a => .globalPooling2D { a with dataFormat := a.dataFormat.named }
  | .dense a => .dense a
  | .recurrent a => .recurrent a
  | .attention a => .attention a

theorem named_of_declared {a : Attributes} (h : ∀ f, a.dataFormat? = some f → f.Declared) :
    a.named = a := by
  cases a <;> first
    | rfl
    | simp only [named, DataFormat.named_of_declared (h _ rfl)]

theorem kind_named (a : Attributes) : a.named.kind = a.kind := by
  cases a <;> rfl

theorem poolOp?_named (a : Attributes) : a.named.poolOp? = a.poolOp? := by
  cases a <;> rfl

theorem required_named (a : Attributes) : a.named.required = a.required := by
  cases a <;> rfl

theorem check_named (a : Attributes) : a.named.check = a.check := by
  rw [check, check, poolOp?_named, required_named]

/-- The reduction of a record without a fault is a declared one. -/
theorem declared_of_check {a : Attributes} (h : a.check = .ok ()) :
    ∀ p, a.poolOp? = some p → p.declared = true := by
  intro p hp
  by_contra hd
  rw [check, hp] at h
  simp [hd] at h

end Attributes

namespace Snapshot

open Cbor

/-! ## Fields -/

/-- The item of a field. -/
def fieldItem : FieldValue → Item
  | .count n => .ofInt n
  | .flag b => .bool b
  | .poolOp p => .text [utf8 p.name]
  | .dataFormat f => .text [utf8 f.name]

/-- The entries of a record. -/
def fieldEntries (a : Attributes) : List (String × Item) :=
  a.fields.map fun f => (f.tag, fieldItem f.value)

theorem readFieldValue_count (m n : Int64) :
    readFieldValue (.count m) (fieldItem (.count n)) = .ok (FieldValue.count n).named := by
  simp [readFieldValue, fieldItem, lifting, readInt_ofInt, FieldValue.named]

theorem readFieldValue_flag (b c : Bool) :
    readFieldValue (.flag b) (fieldItem (.flag c)) = .ok (FieldValue.flag c).named := rfl

theorem readFieldValue_poolOp {p : PoolOp} (h : p.declared = true) (o : PoolOp) :
    readFieldValue (.poolOp o) (fieldItem (.poolOp p)) = .ok (FieldValue.poolOp p).named := by
  simp [readFieldValue, fieldItem, lifting, readText_text, PoolOp.parse_name h, FieldValue.named]

theorem readFieldValue_dataFormat (e f : DataFormat) :
    readFieldValue (.dataFormat e) (fieldItem (.dataFormat f)) =
      .ok (FieldValue.dataFormat f).named := by
  simp [readFieldValue, fieldItem, lifting, readText_text, DataFormat.parse_name, FieldValue.named]

/-- Field by field, the fields of a record are read into those of the zero record of its type. -/
theorem forall₂_fields {a : Attributes} (h : ∀ p, a.poolOp? = some p → p.declared = true) :
    List.Forall₂ (fun z f => z.tag = f.tag ∧
      readFieldValue z.value (fieldItem f.value) = .ok f.value.named)
      (Attributes.zero a.kind).fields a.fields := by
  cases a <;>
    simp [Attributes.zero, Attributes.kind, Attributes.ofEntries, Attributes.fields,
      DenseAttrs.fields, Conv1DAttrs.fields, Conv2DAttrs.fields, RecurrentAttrs.fields,
      AttentionAttrs.fields, Pooling1DAttrs.fields, Pooling2DAttrs.fields,
      GlobalPooling1DAttrs.fields, GlobalPooling2DAttrs.fields, Field.size, Field.amount,
      Field.flag, Field.poolOp, Field.dataFormat, readFieldValue_count, readFieldValue_flag,
      readFieldValue_dataFormat]
  all_goals exact readFieldValue_poolOp (h _ rfl) _

/-! ## Records -/

theorem fills_entryReader {zs fs : List Field} (h : List.Forall₂ (fun z f => z.tag = f.tag ∧
      readFieldValue z.value (fieldItem f.value) = .ok f.value.named) zs fs) (found : Entries) :
    Fills (zs.map entryReader) found (fs.map fun f => (f.tag, fieldItem f.value))
      ((fs.map fun f => (f.tag, f.value.named)).reverse ++ found) := by
  induction h generalizing found with
  | nil => exact .done
  | @cons z f zs fs hzf _ ih =>
    obtain ⟨htag, hread⟩ := hzf
    have htake : (entryReader z).read (fieldItem f.value) found =
        .ok ((f.tag, f.value.named) :: found) := by
      simp only [entryReader, hread, ok_bind, pure_eq_ok, htag]
    have hfills := Fills.take htake (ih ((f.tag, f.value.named) :: found))
    simp only [entryReader, htag] at hfills
    simpa [entryReader, htag] using hfills

theorem tags_fields (a : Attributes) :
    a.fields.map Field.tag = (Attributes.zero a.kind).fields.map Field.tag := by
  cases a <;> rfl

theorem addressable_tag {a : Attributes} {f : Field} (h : f ∈ a.fields) : Addressable f.tag := by
  have hall : ∀ k, ∀ tag ∈ (Attributes.zero k).fields.map Field.tag, Addressable tag := by
    intro k
    cases k <;> decide +kernel
  refine hall a.kind f.tag ?_
  rw [← tags_fields]
  exact List.mem_map_of_mem h

theorem length_fields_le (a : Attributes) : a.fields.length ≤ maxElements := by
  have hall : ∀ k, ((Attributes.zero k).fields.map Field.tag).length ≤ maxElements := by
    intro k
    cases k <;> decide
  have := hall a.kind
  rwa [← tags_fields, List.length_map] at this

theorem scans_fieldBytes (n : Nat) {v : FieldValue} (h : ∀ p, v = .poolOp p → p.declared = true) :
    Scans n (fieldBytes v) (fieldItem v) := by
  cases v with
  | count k => exact scans_int n k
  | flag b => exact scans_bool n b
  | poolOp p =>
    refine scans_text n ?_
    rcases PoolOp.eq_of_declared (h p rfl) with rfl | rfl <;> decide +kernel
  | dataFormat f =>
    refine scans_text n ?_
    unfold DataFormat.name
    split_ifs <;> decide +kernel

/-- The reduction of a field. -/
def fieldPoolOp? (f : Field) : Option PoolOp :=
  match f.value with
  | .poolOp p => some p
  | _ => none

theorem filterMap_fieldPoolOp? (a : Attributes) :
    a.fields.filterMap fieldPoolOp? = a.poolOp?.toList := by
  cases a <;> rfl

theorem poolOp?_of_mem {a : Attributes} {f : Field} (h : f ∈ a.fields) {p : PoolOp}
    (hp : f.value = .poolOp p) : a.poolOp? = some p := by
  have hf : fieldPoolOp? f = some p := by rw [fieldPoolOp?, hp]
  have hmem : p ∈ a.fields.filterMap fieldPoolOp? := List.mem_filterMap.mpr ⟨f, h, hf⟩
  rw [filterMap_fieldPoolOp?] at hmem
  simpa using hmem

/-- The bytes of a record are scanned as its entries. -/
theorem scans_fields (n : Nat) {a : Attributes} (h : a.check = .ok ()) :
    Scans (n + 1) (attributesBytes (some a)) (.ofEntries (fieldEntries a)) := by
  refine scans_map ?_ ?_
  · rw [List.length_map]
    exact length_fields_le a
  · rw [fieldEntries, List.forall₂_map_left_iff, List.forall₂_map_right_iff, List.forall₂_same]
    intro f hf
    refine scansEntry (addressable_tag hf) (scans_fieldBytes n fun p hp => ?_)
    exact Attributes.declared_of_check h p (poolOp?_of_mem hf hp)

/-- The values of a record, the last one in front, make up the record. -/
theorem ofEntries_fields (a : Attributes) :
    Attributes.ofEntries (a.fields.map fun f => (f.tag, f.value.named)).reverse a.kind =
      a.named := by
  cases a <;>
    simp [Attributes.fields, Attributes.kind, Attributes.ofEntries, Attributes.named,
      DenseAttrs.fields, Conv1DAttrs.fields, Conv2DAttrs.fields, RecurrentAttrs.fields,
      AttentionAttrs.fields, Pooling1DAttrs.fields, Pooling2DAttrs.fields,
      GlobalPooling1DAttrs.fields, GlobalPooling2DAttrs.fields, Field.size, Field.amount,
      Field.flag, Field.poolOp, Field.dataFormat, FieldValue.named, Entries.count, Entries.flag,
      Entries.poolOp, Entries.dataFormat, List.lookup_cons]

theorem distinctTags_zero (k : RecordKind) :
    DistinctTags ((Attributes.zero k).fields.map entryReader) := by
  cases k <;> decide +kernel

/-- **The entries of a record are read as the record**, with a channel order as its name says. -/
theorem readAttributes_fields {a : Attributes} (h : a.check = .ok ()) :
    readAttributes a.kind (some (.ofEntries (fieldEntries a))) = .ok a.named := by
  have hfills := fills_entryReader (forall₂_fields (Attributes.declared_of_check h)) []
  rw [List.append_nil] at hfills
  rw [readAttributes, fieldEntries, readRecord_ofEntries _ (distinctTags_zero a.kind) hfills,
    ok_bind, ofEntries_fields, pure_eq_ok]

end Snapshot

end LayerCode
