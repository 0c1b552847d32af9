import Mathlib.Data.List.Forall2
import LayerCode.Cbor.Read
import LayerCode.Proofs.Cbor.Scan

/-!
# Reading the items of written values

The item of a value is read back as the value. A record is written as the entries of its fields, in
order of declaration and with some left out; reading puts them back one after the other.

* `readInt_ofInt`, `readBool_bool`, `readText_text`, `readBytes_bytes`: single values;
* `readArray_array`, `Named`, `readEntries_of_named`, `readMap_ofEntries`: lists of values;
* `Fills`: entries put into a record, field by field;
* **`readRecord_ofEntries`**: a map is read as the record that its entries fill.
-/

namespace LayerCode.Cbor

open Text Outcome

/-! ## Single values -/

theorem ofUtf8?_utf8 (s : String) : ofUtf8? (utf8 s) = some s := by
  simp only [ofUtf8?, utf8, String.fromUTF8?, Array.toArray_toList, String.toUTF8_eq_toByteArray,
    dif_pos s.isValidUTF8]
  rfl

theorem number?_ofInt (k : Int64) : (Value.plain (.ofInt k)).number? = some k.toInt := by
  unfold Item.ofInt
  split_ifs with hk
  · have : 0 ≤ k.toInt := by simpa [Int64.le_iff_toInt_le] using hk
    simp only [Value.number?, Option.some.injEq]
    omega
  · have : k.toInt < 0 := by simpa [Int64.lt_iff_toInt_lt] using hk
    simp only [Value.number?, Option.some.injEq]
    omega

theorem value_ofInt (k : Int64) : (Item.ofInt k).value = .ok (.plain (.ofInt k)) := by
  unfold Item.ofInt
  split_ifs <;> rfl

theorem readInt_ofInt (k : Int64) : readInt (.ofInt k) = .ok k := by
  have hlow := Int64.le_toInt k
  have hhigh := Int64.toInt_lt k
  have hb : (-0x8000000000000000 : Int) ≤ k.toInt ∧ k.toInt ≤ 0x7fffffffffffffff := by omega
  simp only [readInt, readNumber, value_ofInt, ok_bind, number?_ofInt, if_pos hb, pure_eq_ok,
    Int64.ofInt_toInt]

theorem readBool_bool (b : Bool) : readBool (.bool b) = .ok b := rfl

theorem value_text (s : String) : (Item.text [utf8 s]).value = .ok (.text s) := by
  simp [Item.value, chunksText, ofUtf8?_utf8]

theorem readTextOr_text (zero s : String) : readTextOr zero (.text [utf8 s]) = .ok s := by
  rw [readTextOr, value_text]
  rfl

theorem readText_text (s : String) : readText (.text [utf8 s]) = .ok s := readTextOr_text "" s

theorem readBytes_bytes (b : List UInt8) : readBytes (.bytes b) = .ok b := rfl

theorem value_ofEntries (es : List (String × Item)) :
    (Item.ofEntries es).value =
      .ok (.plain (.map (es.map fun e => (.text [utf8 e.1], e.2)))) := rfl

/-! ## Lists of values -/

section Containers

variable {ε α ρ : Type} (lift : Fault → ε)

theorem readArray_array {element : Item → Except ε α} {items : List Item} {as : List α}
    (h : List.Forall₂ (fun i a => element i = .ok a) items as) :
    readArray lift element (.array items) = .ok as :=
  mapM_eq_ok_iff.mpr h

/-- The key has a name of its own, if it has any. -/
def Named (key : Item) : Prop := ∀ v, key.value = .ok v → v.isNull = false

theorem named_text (s : String) : Named (.text [utf8 s]) := by
  intro v hv
  obtain rfl := Except.ok.inj ((value_text s).symm.trans hv)
  rfl

theorem readTextOr_of_named {key : Item} (h : Named key) (before before' : String) :
    readTextOr before key = readTextOr before' key := by
  unfold readTextOr
  cases hv : key.value with
  | error e => rfl
  | ok v =>
    simp only [ok_bind]
    split
    · rfl
    · rw [if_neg (by simp [h v hv]), if_neg (by simp [h v hv])]

theorem readEntry_of_named {pair : Item × Item} (h : Named pair.1) (value : Item → Except ε α)
    (before before' : String) :
    readEntry lift value before pair = readEntry lift value before' pair := by
  rw [readEntry, readEntry, readTextOr_of_named h before before']

/-- Entries whose keys have names are read one by one. -/
theorem readEntries_of_named {pairs : List (Item × Item)} (h : ∀ p ∈ pairs, Named p.1)
    (value : Item → Except ε α) (before before' : String) :
    readEntries lift value before pairs = pairs.mapM (readEntry lift value before') := by
  induction pairs generalizing before with
  | nil => rfl
  | cons pair pairs ih =>
    rw [List.forall_mem_cons] at h
    rw [readEntries, List.mapM_cons, readEntry_of_named lift h.1 value before before']
    simp only [ih h.2]

theorem readTextOr_of_not_named {key : Item} (h : ¬ Named key) (before : String) :
    readTextOr before key = .ok before := by
  simp only [Named, not_forall] at h
  obtain ⟨v, hv, hnull⟩ := h
  rw [readTextOr, hv, ok_bind]
  cases v with
  | text s => exact absurd rfl hnull
  | plain item => exact if_pos (by simpa using hnull)
  | bigUnsigned _ | bigNegative _ => exact absurd rfl hnull

/-- Where all names are distinct, every key behind the first one has a name of its own. -/
theorem named_of_nodup {value : Item → Except ε α} {pairs : List (Item × Item)} {before : String}
    {es : List (String × α)} (h : readEntries lift value before pairs = .ok es)
    (hnodup : (before :: es.map Prod.fst).Nodup) : ∀ p ∈ pairs, Named p.1 := by
  induction pairs generalizing before es with
  | nil => simp
  | cons pair pairs ih =>
    obtain ⟨e, he, h⟩ := bind_eq_ok.mp h
    obtain ⟨rest, hrest, h⟩ := bind_eq_ok.mp h
    obtain rfl := Except.ok.inj h
    rw [List.map_cons, List.nodup_cons] at hnodup
    rw [List.forall_mem_cons]
    refine ⟨?_, ih hrest hnodup.2⟩
    by_contra hnull
    obtain ⟨key, hkey, he⟩ := bind_eq_ok.mp he
    obtain ⟨a, -, he⟩ := bind_eq_ok.mp he
    obtain rfl := Except.ok.inj he
    rw [readTextOr_of_not_named hnull] at hkey
    obtain rfl := Except.ok.inj hkey
    exact hnodup.1 List.mem_cons_self

/-- What the first entry is called does not depend on the key before it, if it has a name. -/
theorem readEntries_congr {pairs : List (Item × Item)} (h : ∀ p ∈ pairs.head?, Named p.1)
    (value : Item → Except ε α) (before before' : String) :
    readEntries lift value before pairs = readEntries lift value before' pairs := by
  cases pairs with
  | nil => rfl
  | cons pair pairs =>
    rw [readEntries, readEntries, readEntry_of_named lift (h pair rfl) value before before']

theorem readEntries_append (pairs : List (Item × Item)) {tail : List (Item × Item)}
    (htail : ∀ p ∈ tail.head?, Named p.1) (value : Item → Except ε α) (before : String) :
    readEntries lift value before (pairs ++ tail) =
      readEntries lift value before pairs >>= fun es =>
        readEntries lift value before tail >>= fun rest => .ok (es ++ rest) := by
  induction pairs generalizing before with
  | nil =>
    rw [List.nil_append, readEntries, pure_eq_ok, ok_bind]
    cases readEntries lift value before tail <;> rfl
  | cons pair pairs ih =>
    rw [List.cons_append, readEntries, readEntries]
    cases readEntry lift value before pair with
    | error e => rfl
    | ok e =>
      simp only [ok_bind, ih, readEntries_congr lift htail value e.1 before]
      cases readEntries lift value e.1 pairs with
      | error e => rfl
      | ok es => cases readEntries lift value before tail <;> rfl

theorem readMap_ofEntries {value : Item → Except ε α} {es : List (String × Item)}
    {as : List (String × α)} (h : List.Forall₂ (fun e a => e.1 = a.1 ∧ value e.2 = .ok a.2) es as) :
    readMap lift value (.ofEntries es) = .ok as := by
  have hnamed : ∀ p ∈ es.map fun e => (Item.text [utf8 e.1], e.2), Named p.1 := by
    rw [List.forall_mem_map]
    exact fun e _ => named_text e.1
  refine (readEntries_of_named lift hnamed value "" "").trans (mapM_eq_ok_iff.mpr ?_)
  rw [List.forall₂_map_left_iff]
  refine h.imp fun e a ⟨hk, hv⟩ => ?_
  simp only [readEntry, lifting, readTextOr_text, mapError_ok, ok_bind, hv, hk, pure_eq_ok]

/-! ## Records -/

/-- No two fields have tags that differ at most in the case of their letters. -/
def DistinctTags (fields : List (FieldReader ε ρ)) : Prop :=
  (fields.map FieldReader.tag).Pairwise fun s t => sameLetters s t = false

instance (fields : List (FieldReader ε ρ)) : Decidable (DistinctTags fields) :=
  inferInstanceAs (Decidable ((fields.map FieldReader.tag).Pairwise _))

/-- The entries take the record `r` to the record `r'`: they are for the given fields, in that
order, and a field may be left out. -/
inductive Fills : List (FieldReader ε ρ) → ρ → List (String × Item) → ρ → Prop where
  | done {r : ρ} : Fills [] r [] r
  | skip {f : FieldReader ε ρ} {fs : List (FieldReader ε ρ)} {r r' : ρ}
      {es : List (String × Item)} : Fills fs r es r' → Fills (f :: fs) r es r'
  | take {f : FieldReader ε ρ} {fs : List (FieldReader ε ρ)} {r r₁ r' : ρ} {i : Item}
      {es : List (String × Item)} :
      f.read i r = .ok r₁ → Fills fs r₁ es r' → Fills (f :: fs) r ((f.tag, i) :: es) r'

section Put

variable {α : Type} {tag : String} {read : Item → Except ε α} {set : ρ → α → ρ}
  {fs : List (FieldReader ε ρ)} {r r' : ρ} {i : Item} {a : α} {es : List (String × Item)}

/-- A field into which a value is put. -/
theorem Fills.put (ha : read i = .ok a) (h : Fills fs (set r a) es r') :
    Fills (⟨tag, fun i r => do pure (set r (← read i))⟩ :: fs) r ((tag, i) :: es) r' :=
  Fills.take (f := ⟨tag, fun i r => do pure (set r (← read i))⟩)
    (by simp only [ha, ok_bind, pure_eq_ok]) h

/-- A field that is left out when it has the value it starts with. -/
theorem Fills.putUnless (isZero : Bool) (hz : isZero = true → set r a = r) (ha : read i = .ok a)
    (h : Fills fs (set r a) es r') :
    Fills (⟨tag, fun i r => do pure (set r (← read i))⟩ :: fs) r
      ((if isZero then [] else [(tag, i)]) ++ es) r' := by
  cases isZero with
  | true =>
    rw [hz rfl] at h
    exact .skip h
  | false => exact .put ha h

end Put

theorem sameLetters_self (s : String) : sameLetters s s = true := beq_self_eq_true _

/-- A tag finds its own field, as long as no entry for it came before. -/
theorem fieldFor?_tag {before fs : List (FieldReader ε ρ)} {f : FieldReader ε ρ}
    (hd : DistinctTags (before ++ f :: fs)) {seen : List String} (hs : f.tag ∉ seen) :
    fieldFor? (before ++ f :: fs) seen f.tag = some f := by
  rw [fieldFor?, List.find?_eq_some_iff_append]
  refine ⟨by simp [sameLetters_self, hs], before, fs, rfl, fun g hg => ?_⟩
  rw [DistinctTags, List.map_append, List.map_cons, List.pairwise_append] at hd
  have hne := hd.2.2 g.tag (List.mem_map_of_mem hg) f.tag List.mem_cons_self
  simp [hne]

/-- The entries of a record are read in turn. What was seen before belongs to earlier fields. -/
theorem foldlM_readPair {fs : List (FieldReader ε ρ)} {r r' : ρ} {es : List (String × Item)}
    (h : Fills fs r es r') (before : List (FieldReader ε ρ)) (hd : DistinctTags (before ++ fs))
    (seen : List String) (hs : ∀ tag ∈ seen, tag ∈ before.map FieldReader.tag) :
    ∃ seen', (es.map fun e => (Item.text [utf8 e.1], e.2)).foldlM
      (readPair lift (before ++ fs)) (seen, r) = .ok (seen', r') := by
  induction h generalizing before seen with
  | done => exact ⟨seen, rfl⟩
  | @skip f fs r r' es h ih =>
    have happ : before ++ f :: fs = (before ++ [f]) ++ fs := by simp
    rw [happ] at hd ⊢
    exact ih _ hd seen fun tag ht => by simp [List.mem_map.mp (hs tag ht)]
  | @take f fs r r₁ r' i es hr h ih =>
    have hnew : f.tag ∉ seen := by
      intro hmem
      rw [DistinctTags, List.map_append, List.map_cons, List.pairwise_append] at hd
      have := hd.2.2 f.tag (hs f.tag hmem) f.tag List.mem_cons_self
      rw [sameLetters_self] at this
      exact Bool.noConfusion this
    have hstep : readPair lift (before ++ f :: fs) (seen, r) (Item.text [utf8 f.tag], i) =
        .ok (f.tag :: seen, r₁) := by
      have hkey : readKey (Item.text [utf8 f.tag]) = .ok (some f.tag) := by
        simp [readKey, chunksText, ofUtf8?_utf8]
      simp only [readPair, lifting, hkey, mapError_ok, ok_bind, fieldFor?_tag hd hnew, hr,
        pure_eq_ok]
    have happ : before ++ f :: fs = (before ++ [f]) ++ fs := by simp
    rw [List.map_cons, List.foldlM_cons, hstep, ok_bind]
    rw [happ] at hd ⊢
    refine ih _ hd _ fun tag ht => ?_
    rcases List.mem_cons.mp ht with rfl | ht
    · simp
    · simp [List.mem_map.mp (hs tag ht)]

/-- **A map is read as the record that its entries fill.** -/
theorem readRecord_ofEntries {fields : List (FieldReader ε ρ)} {zero r : ρ}
    {es : List (String × Item)} (hd : DistinctTags fields) (h : Fills fields zero es r) :
    readRecord lift fields zero (.ofEntries es) = .ok r := by
  obtain ⟨seen, hf⟩ := foldlM_readPair lift h [] hd [] (by simp)
  rw [List.nil_append] at hf
  simp only [readRecord, lifting, value_ofEntries, mapError_ok, ok_bind, hf, Except.map_ok]

end Containers

end LayerCode.Cbor
