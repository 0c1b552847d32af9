import Mathlib.Data.List.Forall2
import Mathlib.Data.String.Basic
import LayerCode.Proofs.Graph.WellFormed
import LayerCode.Proofs.Snapshot.Attributes
import LayerCode.Proofs.Snapshot.Payload

/-!
# Documents read back

The bytes of a graph are scanned as one item, and that item is read as the document of the graph.
The weights of a node may stand in any order; the document has them in order of their names.

* `Buffer.Addressable`, `Node.Addressable`, `Node.Storable`: nodes that the format can hold;
* `orderEntries_sorted`, `orderEntries_eq`, `orderEntries_congr`: entries in order of their keys;
* `scans_tensor`, `scans_node`: bytes are scanned as items;
* `readTensor_item`, **`readNode_item`**: items are read as the entries of a document.
-/

namespace LayerCode

open Text Outcome Cbor

/-! ## What the format can hold -/

/-- The texts of a buffer are not beyond the largest length. -/
structure Buffer.Addressable (p : Buffer) : Prop where
  var : Cbor.Addressable p.var
  type : Cbor.Addressable p.type

/-- The texts and payloads of a node are not beyond the largest length. -/
structure Node.Addressable (n : Node) : Prop where
  name : Cbor.Addressable n.name
  strategy : Cbor.Addressable n.strategy
  input : n.input.Addressable
  output : n.output.Addressable
  payloads : ∀ t ∈ n.weights, 4 * t.data.size ≤ maxLength

/-- The tensors of a node have no more axes than an array may have elements. -/
def Node.Storable (n : Node) : Prop := ∀ t ∈ n.weights, t.rank ≤ maxElements

namespace Snapshot

/-! ## Entries in order -/

section Entries

variable {α : Type}

theorem insertEntry_perm {e : String × α} {es : List (String × α)}
    (h : e.1 ∉ es.map Prod.fst) : (insertEntry e es).Perm (e :: es) := by
  induction es with
  | nil => exact .refl _
  | cons f fs ih =>
    rw [List.map_cons, List.mem_cons, not_or] at h
    rw [insertEntry, if_neg h.1]
    split_ifs
    · exact .refl _
    · exact ((ih h.2).cons f).trans (.swap e f fs)

theorem mem_of_mem_insertEntry {e f : String × α} {es : List (String × α)}
    (h : f ∈ insertEntry e es) : f = e ∨ f ∈ es := by
  induction es with
  | nil => simpa [insertEntry] using h
  | cons d ds ih =>
    rw [insertEntry] at h
    split_ifs at h
    · simpa using h
    · rcases List.mem_cons.mp h with rfl | h
      · exact .inl rfl
      · exact .inr (List.mem_cons_of_mem d h)
    · rcases List.mem_cons.mp h with rfl | h
      · exact .inr List.mem_cons_self
      · exact (ih h).imp_right (List.mem_cons_of_mem d)

theorem insertEntry_sorted (e : String × α) {es : List (String × α)}
    (hs : es.Pairwise fun a b => a.1 < b.1) :
    (insertEntry e es).Pairwise fun a b => a.1 < b.1 := by
  induction es with
  | nil => exact List.pairwise_singleton _ _
  | cons f fs ih =>
    obtain ⟨hf, hfs⟩ := List.pairwise_cons.mp hs
    rw [insertEntry]
    split_ifs with hlt heq
    · refine List.pairwise_cons.mpr ⟨fun b hb => ?_, hs⟩
      rcases List.mem_cons.mp hb with rfl | hb
      · exact hlt
      · exact lt_trans hlt (hf b hb)
    · exact List.pairwise_cons.mpr ⟨fun b hb => heq ▸ hf b hb, hfs⟩
    · refine List.pairwise_cons.mpr ⟨fun b hb => ?_, ih hfs⟩
      rcases mem_of_mem_insertEntry hb with rfl | hb
      · exact lt_of_le_of_ne (not_lt.mp hlt) (Ne.symm heq)
      · exact hf b hb

theorem foldl_insertEntry_sorted (es : List (String × α)) {ordered : List (String × α)}
    (hs : ordered.Pairwise fun a b => a.1 < b.1) :
    (es.foldl (fun ordered e => insertEntry e ordered) ordered).Pairwise
      fun a b => a.1 < b.1 := by
  induction es generalizing ordered with
  | nil => exact hs
  | cons e es ih => exact ih (insertEntry_sorted e hs)

theorem foldl_insertEntry_perm {es ordered : List (String × α)}
    (h : ((ordered ++ es).map Prod.fst).Nodup) :
    (es.foldl (fun ordered e => insertEntry e ordered) ordered).Perm (ordered ++ es) := by
  induction es generalizing ordered with
  | nil => simp
  | cons e es ih =>
    have hperm : (e :: ordered ++ es).Perm (ordered ++ e :: es) := List.perm_middle.symm
    have hn : ((e :: ordered ++ es).map Prod.fst).Nodup := (hperm.map _).nodup_iff.mpr h
    have hnew : e.1 ∉ ordered.map Prod.fst := by
      intro hmem
      simp only [List.cons_append, List.map_cons, List.map_append, List.nodup_cons,
        List.mem_append, not_or] at hn
      exact hn.1.1 hmem
    have hins := (insertEntry_perm hnew).append_right es
    exact (ih ((hins.map _).nodup_iff.mpr hn)).trans (hins.trans hperm)

/-- Entries are put in order of their keys, whatever the keys are. -/
theorem orderEntries_sorted (es : List (String × α)) :
    (orderEntries es).Pairwise fun a b => a.1 < b.1 :=
  foldl_insertEntry_sorted es .nil

theorem orderEntries_perm {es : List (String × α)} (h : (es.map Prod.fst).Nodup) :
    (orderEntries es).Perm es :=
  foldl_insertEntry_perm (by simpa using h)

/-- Entries with distinct keys are put in the one order that their keys have. -/
theorem orderEntries_eq {es fs : List (String × α)} (hp : es.Perm fs)
    (hs : (fs.map Prod.fst).Pairwise (· < ·)) : orderEntries es = fs := by
  have hn : (es.map Prod.fst).Nodup := (hp.map _).nodup_iff.mpr (hs.imp ne_of_lt)
  exact List.Perm.eq_of_pairwise (fun a b _ _ hab hba => absurd hab (lt_asymm hba))
    (orderEntries_sorted es) (List.pairwise_map.mp hs) ((orderEntries_perm hn).trans hp)

/-- The order in which entries with distinct keys stood does not matter. -/
theorem orderEntries_congr {es fs : List (String × α)} (hp : es.Perm fs)
    (h : (es.map Prod.fst).Nodup) : orderEntries es = orderEntries fs := by
  have hfs : (fs.map Prod.fst).Nodup := (hp.map _).nodup_iff.mp h
  exact orderEntries_eq (hp.trans (orderEntries_perm hfs).symm)
    (List.pairwise_map.mpr (orderEntries_sorted fs))

theorem mem_of_mem_orderEntries {f : String × α} {es : List (String × α)}
    (h : f ∈ orderEntries es) : f ∈ es := by
  have hfold : ∀ (es ordered : List (String × α)),
      f ∈ es.foldl (fun ordered e => insertEntry e ordered) ordered → f ∈ ordered ∨ f ∈ es := by
    intro es
    induction es with
    | nil => exact fun _ hf => .inl hf
    | cons e es ih =>
      intro ordered hf
      rcases ih _ hf with hf | hf
      · rcases mem_of_mem_insertEntry hf with rfl | hf
        · exact .inr List.mem_cons_self
        · exact .inl hf
      · exact .inr (List.mem_cons_of_mem e hf)
  simpa using hfold es [] h

end Entries

/-! ## Buffers and weights -/

/-- The item of a buffer. -/
def bufferItem (p : Buffer) : Item :=
  .ofEntries [("var", .text [utf8 p.var]), ("type", .text [utf8 p.type])]

theorem scans_buffer (n : Nat) {p : Buffer} (h : p.Addressable) :
    Scans (n + 1) (bufferBytes p) (bufferItem p) :=
  scans_map (show 2 ≤ maxElements by decide) <|
    .cons (scansEntry (by decide +kernel) (scans_text n h.var)) <|
    .cons (scansEntry (by decide +kernel) (scans_text n h.type)) .nil

theorem readBuffer_item (p : Buffer) : readBuffer (bufferItem p) = .ok p :=
  readRecord_ofEntries _ (by decide +kernel) <|
    .put (readText_text _) <| .put (readText_text _) .done

/-- The item of a weight. -/
def tensorItem (precision : Precision) (t : Tensor) : Item :=
  .ofEntries [("shape", .array (t.shape.map .ofInt)), ("encoding", .text [utf8 precision.name]),
    ("data", .bytes (Payload.write precision t.data))]

/-- What a document says about a weight. -/
def tensorEntry (precision : Precision) (t : Tensor) : TensorEntry where
  shape := t.shape
  encoding := precision.name
  data := Payload.write precision t.data

theorem scans_tensor (n : Nat) (precision : Precision) {t : Tensor} (hr : t.rank ≤ maxElements)
    (hl : 4 * t.data.size ≤ maxLength) :
    Scans (n + 2) (tensorBytes precision t) (tensorItem precision t) := by
  have hshape : Scans (n + 1) (Write.array (t.shape.map Write.int))
      (.array (t.shape.map .ofInt)) := by
    refine scans_array (by rwa [List.length_map]) ?_
    rw [List.forall₂_map_left_iff, List.forall₂_map_right_iff, List.forall₂_same]
    exact fun k _ => scans_int n k
  have hname : Addressable precision.name := by
    cases precision <;> decide +kernel
  have hdata : (Payload.write precision t.data).length ≤ maxLength := by
    rw [Payload.length_write]
    cases precision <;> simp only [Precision.width] <;> omega
  exact scans_map (show 3 ≤ maxElements by decide) <|
    .cons (scansEntry (by decide +kernel) hshape) <|
    .cons (scansEntry (by decide +kernel) (scans_text (n + 1) hname)) <|
    .cons (scansEntry (by decide +kernel) (scans_bytes (n + 1) hdata)) .nil

theorem readTensor_item (precision : Precision) (t : Tensor) :
    readTensor (tensorItem precision t) = .ok (tensorEntry precision t) := by
  have hshape : readArray id readInt (.array (t.shape.map .ofInt)) = .ok t.shape := by
    refine readArray_array id ?_
    rw [List.forall₂_map_left_iff, List.forall₂_same]
    exact fun k _ => readInt_ofInt k
  exact readRecord_ofEntries _ (by decide +kernel) <|
    .put hshape <| .put (readText_text _) <| .put (readBytes_bytes _) .done

/-! ## Nodes -/

theorem length_optional_le {α : Type} (tag : String) (isZero : Bool) (a : α) :
    (optional tag isZero a).length ≤ 1 := by
  cases isZero <;> simp [optional]

theorem forall₂_optional {n : Nat} {tag : String} {bytes : List UInt8} {item : Item}
    (isZero : Bool) (ht : Addressable tag) (h : Scans n bytes item) :
    List.Forall₂ (ScansEntry n) (optional tag isZero bytes) (optional tag isZero item) := by
  cases isZero with
  | true => exact .nil
  | false => exact .cons (scansEntry ht h) .nil

/-- The item of an attribute record, or of its absence. -/
def attributesItem : Option Attributes → Item
  | none => .null
  | some a => .ofEntries (fieldEntries a)

/-- The entries of weights. -/
def weightEntries (precision : Precision) (ts : List Tensor) : List (String × Item) :=
  ts.map fun t => (t.name, tensorItem precision t)

/-- The item of a node with its weights in a given order. -/
def nodeItem (precision : Precision) (n : Node) (ts : List Tensor) : Item :=
  .ofEntries <|
    [("name", .text [utf8 n.name]), ("index", .ofInt n.index),
     ("variant", .text [utf8 n.variant.name])] ++
    optional "strategy" (n.strategy == "") (.text [utf8 n.strategy]) ++
    optional "reuse_factor" (n.reuseFactor == 0) (.ofInt n.reuseFactor) ++
    [("input", bufferItem n.input), ("output", bufferItem n.output),
     ("attrs", attributesItem n.attrs)] ++
    optional "weights" ts.isEmpty (.ofEntries (weightEntries precision ts)) ++
    optional "transformed" (n.layout == .untransformed) (.bool true)

/-- What a document says about a node. -/
def nodeEntry (precision : Precision) (n : Node) : NodeEntry where
  name := n.name
  index := n.index
  variant := n.variant.name
  strategy := n.strategy
  reuseFactor := n.reuseFactor
  input := n.input
  output := n.output
  attrs := some (attributesItem n.attrs)
  weights := n.weights.map fun t => (t.name, tensorEntry precision t)
  transformed := n.layout == .transformed

section Nodes

variable {n : Node} {ts : List Tensor} (precision : Precision)

theorem addressable_weight (hw : n.WellFormed) {t : Tensor} (ht : t ∈ n.weights) :
    Addressable t.name := by
  have hall : ∀ v : Variant, ∀ name ∈ sortOn id v.declaredWeights, Addressable name := by
    intro v
    cases v <;> decide +kernel
  exact hall n.variant t.name (hw.names ▸ List.mem_map_of_mem ht)

theorem length_weights_le (hw : n.WellFormed) : n.weights.length ≤ maxElements := by
  have hall : ∀ v : Variant, (sortOn id v.declaredWeights).length ≤ maxElements := by
    intro v
    cases v <;> decide
  have := hall n.variant
  rwa [← hw.names, List.length_map] at this

/-- The bytes of the weights of a node, in any order, are scanned as their entries. -/
theorem scans_weights (k : Nat) (hw : n.WellFormed) (hs : n.Storable) (ha : n.Addressable)
    (hp : ts.Perm n.weights) :
    Scans (k + 3) (Write.map (ts.map fun t => (t.name, tensorBytes precision t)))
      (.ofEntries (weightEntries precision ts)) := by
  refine scans_map ?_ ?_
  · rw [List.length_map, hp.length_eq]
    exact length_weights_le hw
  · rw [weightEntries, List.forall₂_map_left_iff, List.forall₂_map_right_iff, List.forall₂_same]
    intro t ht
    have hmem := hp.mem_iff.mp ht
    exact scansEntry (addressable_weight hw hmem)
      (scans_tensor k precision (hs t hmem) (ha.payloads t hmem))

theorem scans_node (k : Nat) (hw : n.WellFormed) (hs : n.Storable) (ha : n.Addressable)
    (hp : ts.Perm n.weights) :
    Scans (k + 4) (nodeBytes n (ts.map fun t => (t.name, tensorBytes precision t)))
      (nodeItem precision n ts) := by
  obtain ⟨a, hattrs, -, hcheck⟩ := hw.record
  have hvariant : Addressable n.variant.name := by
    cases n.variant <;> decide +kernel
  have hempty : (ts.map fun t => (t.name, tensorBytes precision t)).isEmpty = ts.isEmpty :=
    List.isEmpty_map
  rw [nodeBytes, nodeItem, hempty, hattrs]
  refine scans_map ?_ ?_
  · have h1 := length_optional_le "strategy" (n.strategy == "") (Write.text n.strategy)
    have h2 := length_optional_le "reuse_factor" (n.reuseFactor == 0) (Write.int n.reuseFactor)
    have h3 := length_optional_le "weights" ts.isEmpty
      (Write.map (ts.map fun t => (t.name, tensorBytes precision t)))
    have h4 := length_optional_le "transformed" (n.layout == .untransformed) (Write.bool true)
    simp only [List.length_append, List.length_cons, List.length_nil, maxElements]
    omega
  · refine List.rel_append (List.rel_append (List.rel_append (List.rel_append (List.rel_append
      ?_ ?_) ?_) ?_) ?_) ?_
    · exact .cons (scansEntry (by decide +kernel) (scans_text _ ha.name)) <|
        .cons (scansEntry (by decide +kernel) (scans_int _ n.index)) <|
        .cons (scansEntry (by decide +kernel) (scans_text _ hvariant)) .nil
    · exact forall₂_optional _ (by decide +kernel) (scans_text _ ha.strategy)
    · exact forall₂_optional _ (by decide +kernel) (scans_int _ n.reuseFactor)
    · exact .cons (scansEntry (by decide +kernel) (scans_buffer _ ha.input)) <|
        .cons (scansEntry (by decide +kernel) (scans_buffer _ ha.output)) <|
        .cons (scansEntry (by decide +kernel) (scans_fields _ hcheck)) .nil
    · exact forall₂_optional _ (by decide +kernel) (scans_weights precision k hw hs ha hp)
    · exact forall₂_optional _ (by decide +kernel) (scans_bool _ true)

theorem readRaw_attributes (attrs : Option Attributes) :
    readRaw (attributesItem attrs) = .ok (attributesItem attrs) := by
  cases attrs <;> rfl

theorem readMap_weights (ts : List Tensor) :
    readMap id readTensor (.ofEntries (weightEntries precision ts)) =
      .ok (ts.map fun t => (t.name, tensorEntry precision t)) := by
  refine readMap_ofEntries id ?_
  rw [weightEntries, List.forall₂_map_left_iff, List.forall₂_map_right_iff, List.forall₂_same]
  exact fun t _ => ⟨rfl, readTensor_item precision t⟩

/-- **The item of a node is read as its entry**, whatever the order of the weights. -/
theorem readNode_item (hw : n.WellFormed) (hp : ts.Perm n.weights) :
    readNode (nodeItem precision n ts) = .ok (nodeEntry precision n) := by
  have horder : orderEntries (ts.map fun t => (t.name, tensorEntry precision t)) =
      n.weights.map fun t => (t.name, tensorEntry precision t) := by
    refine orderEntries_eq (hp.map _) ?_
    rw [List.map_map]
    exact hw.sorted
  have hempty : ts.isEmpty = true →
      orderEntries (ts.map fun t => (t.name, tensorEntry precision t)) = [] := by
    intro h
    rw [List.isEmpty_iff.mp h]
    rfl
  rw [nodeEntry, nodeItem, ← horder]
  simp only [optional, List.append_assoc, List.cons_append, List.nil_append]
  refine readRecord_ofEntries _ (by decide +kernel) ?_
  -- The record so far is brought into one piece where it would otherwise be copied field by field.
  refine .put (readText_text _) <| .put (readInt_ofInt _) <| .put (readText_text _) ?_
  dsimp only
  refine .putUnless _ (fun h => by rw [eq_of_beq h]) (readText_text _) ?_
  refine .putUnless _ (fun h => by rw [eq_of_beq h]) (readInt_ofInt _) ?_
  dsimp only
  refine .put (readBuffer_item _) <| .put (readBuffer_item _) <| .put (readRaw_attributes _) ?_
  dsimp only
  refine .putUnless _ (fun h => by rw [hempty h]) (readMap_weights precision ts) ?_
  cases n.layout with
  | untransformed => exact .skip .done
  | transformed => exact .put (readBool_bool true) .done

end Nodes

end Snapshot

end LayerCode
