import Mathlib.Data.List.Forall2
import LayerCode.Cbor.Read
import LayerCode.Cbor.Scan
import LayerCode.Proofs.Outcome
import LayerCode.Proofs.Text.Listing

/-!
# Sizes of what is read

However an item is written, its strings are not longer than the bytes it was scanned from, and its
arrays have no more elements than an array may have. What is read from the item keeps within these
bounds, in whatever order and under whichever spelling of its keys a record was written.

* `Item.Within`: the bounds of an item;
* `Finds`: what a scanner finds in a number of bytes;
* `scanStringBody_length`, `scanElements_finds`, **`scan_within`**: the bounds of scanned items;
* `value_within`, `readText_length`, `readBytes_length`, `readArray_all`, `readMap_all`: the bounds
  of what is read;
* **`readRecord_keeps`**: what every field of a record keeps holds of the record.
-/

namespace LayerCode.Cbor

open Text Outcome

/-! ## Scanning -/

section Strings

variable {bytes rest taken : List UInt8} {k : Nat}

theorem takeBytes_length (h : takeBytes k bytes = .ok (taken, rest)) :
    taken.length + rest.length = bytes.length := by
  unfold takeBytes at h
  dsimp only at h
  split_ifs at h
  obtain ⟨rfl, rfl⟩ := Prod.mk.inj (Except.ok.inj h)
  rw [← List.length_append, List.take_append_drop]

theorem scanNumber_length {width n : Nat} (h : scanNumber width bytes = .ok (n, rest)) :
    rest.length ≤ bytes.length := by
  obtain ⟨⟨taken, after⟩, htake, h⟩ := bind_eq_ok.mp h
  obtain ⟨-, rfl⟩ := Prod.mk.inj (Except.ok.inj h)
  have := takeBytes_length htake
  omega

theorem scanArgument_length {major info n : Nat}
    (h : scanArgument major info bytes = .ok (n, rest)) : rest.length ≤ bytes.length := by
  unfold scanArgument at h
  split_ifs at h
  · obtain ⟨-, rfl⟩ := Prod.mk.inj (Except.ok.inj h)
    exact le_rfl
  · obtain ⟨⟨k, after⟩, hnum, h⟩ := bind_eq_ok.mp h
    dsimp only at h
    split_ifs at h
    obtain ⟨-, rfl⟩ := Prod.mk.inj (Except.ok.inj h)
    exact scanNumber_length hnum
  · exact scanNumber_length h
  · exact scanNumber_length h
  · exact scanNumber_length h
  · obtain ⟨-, rfl⟩ := Prod.mk.inj (Except.ok.inj h)
    exact le_rfl

theorem scanHead_length {head : Head} (h : scanHead bytes = .ok (head, rest)) :
    rest.length ≤ bytes.length := by
  cases bytes with
  | nil => simp [scanHead] at h
  | cons b bytes =>
    obtain ⟨⟨k, after⟩, harg, h⟩ := bind_eq_ok.mp h
    obtain ⟨-, rfl⟩ := Prod.mk.inj (Except.ok.inj h)
    have := scanArgument_length harg
    rw [List.length_cons]
    omega

theorem scanString_length (h : scanString k bytes = .ok (taken, rest)) :
    taken.length + rest.length = bytes.length := by
  unfold scanString at h
  split_ifs at h
  exact takeBytes_length h

theorem scanChunks_length {major fuel : Nat} {chunks found : List (List UInt8)}
    (h : scanChunks major fuel chunks bytes = .ok (found, rest)) :
    found.flatten.length + rest.length ≤ chunks.flatten.length + bytes.length := by
  induction fuel generalizing chunks bytes with
  | zero => simp [scanChunks] at h
  | succ fuel ih =>
    cases bytes with
    | nil => simp [scanChunks] at h
    | cons b bytes =>
      rw [scanChunks] at h
      split_ifs at h
      · obtain ⟨rfl, rfl⟩ := Prod.mk.inj (Except.ok.inj h)
        rw [(List.reverse_perm chunks).flatten.length_eq, List.length_cons]
        omega
      · obtain ⟨⟨head, mid⟩, hhead, h⟩ := bind_eq_ok.mp h
        obtain ⟨⟨chunk, after⟩, hchunk, h⟩ := bind_eq_ok.mp h
        have h₁ := scanHead_length hhead
        have h₂ := scanString_length hchunk
        have h₃ := ih h
        rw [List.flatten_cons, List.length_append] at h₃
        omega

theorem scanStringBody_length {head : Head} {chunks : List (List UInt8)}
    (h : scanStringBody head bytes = .ok (chunks, rest)) :
    chunks.flatten.length + rest.length ≤ bytes.length := by
  unfold scanStringBody at h
  split_ifs at h
  · simpa using scanChunks_length h
  · obtain ⟨⟨chunk, after⟩, hchunk, h⟩ := bind_eq_ok.mp h
    obtain ⟨rfl, rfl⟩ := Prod.mk.inj (Except.ok.inj h)
    simpa using (scanString_length hchunk).le

end Strings

/-- In at most `n` bytes the scanner finds values with a property, and leaves at most `n` bytes. -/
def Finds {α : Type} (n : Nat) (s : Scanner α) (P : α → Prop) : Prop :=
  ∀ bytes a rest, bytes.length ≤ n → s bytes = .ok (a, rest) → rest.length ≤ n ∧ P a

section Elements

variable {α : Type} {n : Nat} {element : Scanner α} {P : α → Prop} (he : Finds n element P)

include he in
theorem scanCounted_finds (k : Nat) {found : List α} (hfound : ∀ a ∈ found, P a) :
    Finds n (scanCounted element k found)
      fun as => as.length = found.length + k ∧ ∀ a ∈ as, P a := by
  induction k generalizing found with
  | zero =>
    intro bytes as rest hb h
    obtain ⟨rfl, rfl⟩ := Prod.mk.inj (Except.ok.inj h)
    exact ⟨hb, by simp, by simpa using hfound⟩
  | succ k ih =>
    intro bytes as rest hb h
    obtain ⟨⟨a, mid⟩, ha, h⟩ := bind_eq_ok.mp h
    obtain ⟨hmid, hPa⟩ := he bytes a mid hb ha
    have hcons : ∀ x ∈ a :: found, P x := by simpa using ⟨hPa, hfound⟩
    obtain ⟨hrest, hlen, has⟩ := ih hcons mid as rest hmid h
    rw [List.length_cons] at hlen
    exact ⟨hrest, by omega, has⟩

include he in
theorem scanOpen_finds (room : Nat) {found : List α} (hfound : ∀ a ∈ found, P a) :
    Finds n (scanOpen element room found)
      fun as => as.length ≤ found.length + room ∧ ∀ a ∈ as, P a := by
  induction room generalizing found with
  | zero =>
    intro bytes as rest hb h
    cases bytes with
    | nil => simp [scanOpen] at h
    | cons b bytes =>
      rw [scanOpen] at h
      split_ifs at h
      · obtain ⟨rfl, rfl⟩ := Prod.mk.inj (Except.ok.inj h)
        rw [List.length_cons] at hb
        exact ⟨by omega, by simp, by simpa using hfound⟩
      · obtain ⟨_, _, h⟩ := bind_eq_ok.mp h
        simp at h
  | succ room ih =>
    intro bytes as rest hb h
    cases bytes with
    | nil => simp [scanOpen] at h
    | cons b bytes =>
      rw [scanOpen] at h
      split_ifs at h
      · obtain ⟨rfl, rfl⟩ := Prod.mk.inj (Except.ok.inj h)
        rw [List.length_cons] at hb
        exact ⟨by omega, by simp, by simpa using hfound⟩
      · obtain ⟨⟨a, mid⟩, ha, h⟩ := bind_eq_ok.mp h
        obtain ⟨hmid, hPa⟩ := he _ a mid hb ha
        have hcons : ∀ x ∈ a :: found, P x := by simpa using ⟨hPa, hfound⟩
        obtain ⟨hrest, hlen, has⟩ := ih hcons mid as rest hmid h
        rw [List.length_cons] at hlen
        exact ⟨hrest, by omega, has⟩

include he in
theorem scanElements_finds (head : Head) :
    Finds n (scanElements element head) fun as => as.length ≤ maxElements ∧ ∀ a ∈ as, P a := by
  intro bytes as rest hb h
  unfold scanElements at h
  split_ifs at h with _ _ hmax
  · obtain ⟨hrest, hlen, has⟩ := scanOpen_finds he maxElements (by simp) bytes as rest hb h
    exact ⟨hrest, by simpa using hlen, has⟩
  · obtain ⟨hrest, hlen, has⟩ := scanCounted_finds he head.argument (by simp) bytes as rest hb h
    rw [List.length_nil] at hlen
    exact ⟨hrest, by omega, has⟩

end Elements

theorem scanPair_finds {n : Nat} {item : Scanner Item} {P : Item → Prop} (hi : Finds n item P) :
    Finds n (scanPair item) fun p => P p.1 ∧ P p.2 := by
  intro bytes p rest hb h
  obtain ⟨⟨key, mid⟩, hkey, h⟩ := bind_eq_ok.mp h
  obtain ⟨⟨value, after⟩, hvalue, h⟩ := bind_eq_ok.mp h
  obtain ⟨rfl, rfl⟩ := Prod.mk.inj (Except.ok.inj h)
  obtain ⟨hmid, hP₁⟩ := hi bytes key mid hb hkey
  obtain ⟨hrest, hP₂⟩ := hi mid value after hmid hvalue
  exact ⟨hrest, hP₁, hP₂⟩

/-! ## Items -/

/-- No string of the item is longer than `n`, and no array has too many elements. -/
inductive Item.Within (n : Nat) : Item → Prop where
  | unsigned (k : Nat) : Within n (.unsigned k)
  | negative (k : Nat) : Within n (.negative k)
  | bytes {content : List UInt8} : content.length ≤ n → Within n (.bytes content)
  | text {chunks : List (List UInt8)} : chunks.flatten.length ≤ n → Within n (.text chunks)
  | array {items : List Item} :
      items.length ≤ maxElements → (∀ i ∈ items, Within n i) → Within n (.array items)
  | map {pairs : List (Item × Item)} :
      (∀ p ∈ pairs, Within n p.1) → (∀ p ∈ pairs, Within n p.2) → Within n (.map pairs)
  | tag (k : Nat) {content : Item} : Within n content → Within n (.tag k content)
  | simple (k : Nat) : Within n (.simple k)
  | bool (b : Bool) : Within n (.bool b)
  | null : Within n .null
  | undefined : Within n .undefined
  | float (bits : Nat) : Within n (.float bits)

/-- The scanners of a level find items within `n`. -/
structure Level.Within (n : Nat) (l : Level) : Prop where
  item : Finds n l.item (Item.Within n)
  content : Finds n l.content (Item.Within n)

section Levels

variable {n : Nat} {inner : Option Level} (hin : ∀ l ∈ inner, l.Within n)

theorem primitive_within (head : Head) : (primitive head).Within n := by
  unfold primitive
  split_ifs <;> constructor

include hin in
theorem scanBody_finds (head : Head) : Finds n (scanBody inner head) (Item.Within n) := by
  intro bytes item rest hb h
  unfold scanBody at h
  split at h
  · obtain ⟨rfl, rfl⟩ := Prod.mk.inj (Except.ok.inj h)
    exact ⟨hb, .unsigned _⟩
  · obtain ⟨rfl, rfl⟩ := Prod.mk.inj (Except.ok.inj h)
    exact ⟨hb, .negative _⟩
  · obtain ⟨⟨chunks, after⟩, hchunks, h⟩ := bind_eq_ok.mp h
    obtain ⟨rfl, rfl⟩ := Prod.mk.inj (Except.ok.inj h)
    have := scanStringBody_length hchunks
    exact ⟨by omega, .bytes (by omega)⟩
  · obtain ⟨⟨chunks, after⟩, hchunks, h⟩ := bind_eq_ok.mp h
    obtain ⟨rfl, rfl⟩ := Prod.mk.inj (Except.ok.inj h)
    have := scanStringBody_length hchunks
    exact ⟨by omega, .text (by omega)⟩
  · cases inner with
    | none => simp at h
    | some l =>
      obtain ⟨⟨items, after⟩, hitems, h⟩ := bind_eq_ok.mp h
      obtain ⟨rfl, rfl⟩ := Prod.mk.inj (Except.ok.inj h)
      obtain ⟨hrest, hlen, hall⟩ :=
        scanElements_finds (hin l rfl).item head bytes items after hb hitems
      exact ⟨hrest, .array hlen hall⟩
  · cases inner with
    | none => simp at h
    | some l =>
      obtain ⟨⟨pairs, after⟩, hpairs, h⟩ := bind_eq_ok.mp h
      obtain ⟨rfl, rfl⟩ := Prod.mk.inj (Except.ok.inj h)
      obtain ⟨hrest, -, hall⟩ :=
        scanElements_finds (scanPair_finds (hin l rfl).item) head bytes pairs after hb hpairs
      exact ⟨hrest, .map (fun p hp => (hall p hp).1) fun p hp => (hall p hp).2⟩
  · obtain ⟨rfl, rfl⟩ := Prod.mk.inj (Except.ok.inj h)
    exact ⟨hb, primitive_within head⟩

include hin in
theorem scanContent_finds : Finds n (scanContent inner) (Item.Within n) := by
  intro bytes item rest hb h
  obtain ⟨⟨head, mid⟩, hhead, h⟩ := bind_eq_ok.mp h
  have hmid : mid.length ≤ n := (scanHead_length hhead).trans hb
  dsimp only at h
  split_ifs at h
  · cases inner with
    | none => simp at h
    | some l =>
      obtain ⟨⟨content, after⟩, hcontent, h⟩ := bind_eq_ok.mp h
      obtain ⟨rfl, rfl⟩ := Prod.mk.inj (Except.ok.inj h)
      obtain ⟨hrest, hwithin⟩ := (hin l rfl).content mid content after hmid hcontent
      exact ⟨hrest, .tag _ hwithin⟩
  · exact scanBody_finds hin head mid item rest hmid h

include hin in
theorem scanItem_finds : Finds n (scanItem inner) (Item.Within n) := by
  intro bytes item rest hb h
  obtain ⟨⟨head, mid⟩, hhead, h⟩ := bind_eq_ok.mp h
  have hmid : mid.length ≤ n := (scanHead_length hhead).trans hb
  dsimp only at h
  split_ifs at h
  · obtain ⟨⟨content, after⟩, hcontent, h⟩ := bind_eq_ok.mp h
    obtain ⟨rfl, rfl⟩ := Prod.mk.inj (Except.ok.inj h)
    obtain ⟨hrest, hwithin⟩ := scanContent_finds hin mid content after hmid hcontent
    exact ⟨hrest, .tag _ hwithin⟩
  · exact scanBody_finds hin head mid item rest hmid h

end Levels

theorem level_within (n k : Nat) : (level k).Within n := by
  induction k with
  | zero => exact ⟨scanItem_finds (by simp), scanContent_finds (by simp)⟩
  | succ k ih => exact ⟨scanItem_finds (by simpa using ih), scanContent_finds (by simpa using ih)⟩

/-- **The strings of a scanned item are not longer than the bytes it was scanned from**, and its
arrays have no more elements than an array may have. -/
theorem scan_within {bytes rest : List UInt8} {item : Item} (h : scan bytes = .ok (item, rest)) :
    item.Within bytes.length := by
  unfold scan at h
  split at h
  · simp at h
  · exact ((level_within bytes.length maxLevels).item bytes item rest le_rfl h).2

/-! ## Reading -/

theorem utf8_ofUtf8? {bytes : List UInt8} {s : String} (h : ofUtf8? bytes = some s) :
    utf8 s = bytes := by
  unfold ofUtf8? String.fromUTF8? at h
  split_ifs at h
  obtain rfl := Option.some.inj h
  simp [utf8, String.fromUTF8]

theorem utf8_append (s t : String) : utf8 (s ++ t) = utf8 s ++ utf8 t := by
  simp [utf8]

theorem utf8_join {chunks : List (List UInt8)} {texts : List String}
    (h : chunks.mapM ofUtf8? = some texts) : utf8 (String.join texts) = chunks.flatten := by
  induction chunks generalizing texts with
  | nil =>
    obtain rfl := Option.some.inj h
    rfl
  | cons c cs ih =>
    rw [List.mapM_cons] at h
    obtain ⟨s, hs, h⟩ := Option.bind_eq_some_iff.mp h
    obtain ⟨ts, hts, h⟩ := Option.bind_eq_some_iff.mp h
    obtain rfl := Option.some.inj h
    rw [String.join_cons, utf8_append, utf8_ofUtf8? hs, ih hts, List.flatten_cons]

theorem chunksText_eq_ok {chunks : List (List UInt8)} {s : String} (h : chunksText chunks = .ok s) :
    utf8 s = chunks.flatten := by
  unfold chunksText at h
  split at h
  · next texts htexts =>
    obtain rfl := Except.ok.inj h
    exact utf8_join htexts
  · simp at h

/-- The bounds of an item without its tags. -/
def Value.Within (n : Nat) : Value → Prop
  | .plain item => item.Within n
  | .text s => (utf8 s).length ≤ n
  | .bigUnsigned content => content.length ≤ n
  | .bigNegative content => content.length ≤ n

section Reading

variable {n : Nat} {item : Item} (hw : item.Within n)

include hw in
theorem value_within {v : Value} (h : item.value = .ok v) : v.Within n := by
  induction hw with
  | text hlen =>
    obtain ⟨s, hs, rfl⟩ := map_eq_ok.mp h
    rwa [← chunksText_eq_ok hs] at hlen
  | @tag k content hcontent ih =>
    unfold Item.value at h
    split_ifs at h
    split at h
    · obtain rfl := Except.ok.inj h
      cases hcontent with
      | bytes hlen => exact hlen
    · obtain rfl := Except.ok.inj h
      cases hcontent with
      | bytes hlen => exact hlen
    · exact ih h
  | _ =>
    obtain rfl := Except.ok.inj h
    first | assumption | constructor <;> assumption

include hw in
theorem readText_length {s : String} (h : readText item = .ok s) : (utf8 s).length ≤ n := by
  obtain ⟨v, hv, h⟩ := bind_eq_ok.mp h
  have hvalue := value_within hw hv
  split at h
  · obtain rfl := Except.ok.inj h
    exact hvalue
  · split_ifs at h
    obtain rfl := Except.ok.inj h
    exact Nat.zero_le n

include hw in
theorem readBytes_length {b : List UInt8} (h : readBytes item = .ok b) :
    b.length ≤ max n maxElements := by
  obtain ⟨v, hv, h⟩ := bind_eq_ok.mp h
  have hvalue := value_within hw hv
  split at h
  · obtain rfl := Except.ok.inj h
    cases hvalue with
    | bytes hlen => exact hlen.trans (Nat.le_max_left _ _)
  · obtain rfl := Except.ok.inj h
    exact Nat.le_trans hvalue (Nat.le_max_left _ _)
  · obtain rfl := Except.ok.inj h
    exact Nat.le_trans hvalue (Nat.le_max_left _ _)
  · cases hvalue with
    | array hlen _ =>
      rw [← (mapM_eq_ok_iff.mp h).length_eq]
      exact hlen.trans (Nat.le_max_right _ _)
  · split_ifs at h
    obtain rfl := Except.ok.inj h
    exact Nat.zero_le _

variable {ε α ρ : Type} {lift : Fault → ε}

include hw in
theorem readArray_all {element : Item → Except ε α} {P : α → Prop}
    (he : ∀ i a, i.Within n → element i = .ok a → P a) {as : List α}
    (h : readArray lift element item = .ok as) : as.length ≤ maxElements ∧ ∀ a ∈ as, P a := by
  obtain ⟨v, hv, h⟩ := bind_eq_ok.mp h
  have hvalue := value_within hw (mapError_eq_ok.mp hv)
  split at h
  · cases hvalue with
    | array hlen hall =>
      have hread := mapM_eq_ok_iff.mp h
      refine ⟨hread.length_eq ▸ hlen, fun a ha => ?_⟩
      obtain ⟨i, hi, hia⟩ := exists_of_mem_right hread ha
      exact he i a (hall i hi) hia
  · split_ifs at h
    obtain rfl := Except.ok.inj h
    exact ⟨Nat.zero_le _, by simp⟩

theorem readEntries_all {value : Item → Except ε α} {P : α → Prop} {pairs : List (Item × Item)}
    (hv : ∀ p ∈ pairs, ∀ a, value p.2 = .ok a → P a) {before : String} {es : List (String × α)}
    (h : readEntries lift value before pairs = .ok es) : ∀ e ∈ es, P e.2 := by
  induction pairs generalizing before es with
  | nil =>
    obtain rfl := Except.ok.inj h
    simp
  | cons pair pairs ih =>
    rw [List.forall_mem_cons] at hv
    obtain ⟨e, he, h⟩ := bind_eq_ok.mp h
    obtain ⟨rest, hrest, h⟩ := bind_eq_ok.mp h
    obtain rfl := Except.ok.inj h
    obtain ⟨key, -, he⟩ := bind_eq_ok.mp he
    obtain ⟨a, ha, he⟩ := bind_eq_ok.mp he
    obtain rfl := Except.ok.inj he
    rw [List.forall_mem_cons]
    exact ⟨hv.1 a ha, ih hv.2 hrest⟩

include hw in
theorem readMap_all {value : Item → Except ε α} {P : α → Prop}
    (hv : ∀ i a, i.Within n → value i = .ok a → P a) {es : List (String × α)}
    (h : readMap lift value item = .ok es) : ∀ e ∈ es, P e.2 := by
  obtain ⟨v, hvalue, h⟩ := bind_eq_ok.mp h
  have hvalue := value_within hw (mapError_eq_ok.mp hvalue)
  split at h
  · cases hvalue with
    | map _ hall => exact readEntries_all (fun p hp a => hv p.2 a (hall p hp)) h
  · split_ifs at h
    obtain rfl := Except.ok.inj h
    simp

/-- Putting an item within `n` into a record with a property, the field keeps the property. -/
def FieldReader.Keeps (n : Nat) (P : ρ → Prop) (f : FieldReader ε ρ) : Prop :=
  ∀ i r r', i.Within n → P r → f.read i r = .ok r' → P r'

/-- A field into which a value is put. -/
theorem FieldReader.keeps_put {P : ρ → Prop} {tag : String} {read : Item → Except ε α}
    {set : ρ → α → ρ} (h : ∀ i r a, i.Within n → read i = .ok a → P r → P (set r a)) :
    Keeps n P ⟨tag, fun i r => do pure (set r (← read i))⟩ := by
  intro i r r' hi hr hread
  obtain ⟨a, ha, hread⟩ := bind_eq_ok.mp hread
  obtain rfl := Except.ok.inj hread
  exact h i r a hi ha hr

theorem readPair_keeps {P : ρ → Prop} {fields : List (FieldReader ε ρ)}
    (hf : ∀ f ∈ fields, f.Keeps n P) {pair : Item × Item} (hp : pair.2.Within n)
    {state state' : List String × ρ} (hs : P state.2)
    (h : readPair lift fields state pair = .ok state') : P state'.2 := by
  obtain ⟨key?, -, h⟩ := bind_eq_ok.mp h
  split at h
  · obtain rfl := Except.ok.inj h
    exact hs
  · split at h
    · obtain rfl := Except.ok.inj h
      exact hs
    · next f hfield =>
      obtain ⟨r, hr, h⟩ := bind_eq_ok.mp h
      obtain rfl := Except.ok.inj h
      exact hf f (List.mem_of_find?_eq_some hfield) pair.2 state.2 r hp hs hr

theorem foldlM_readPair_keeps {P : ρ → Prop} {fields : List (FieldReader ε ρ)}
    (hf : ∀ f ∈ fields, f.Keeps n P) {pairs : List (Item × Item)} (hp : ∀ p ∈ pairs, p.2.Within n)
    {state state' : List String × ρ} (hs : P state.2)
    (h : pairs.foldlM (readPair lift fields) state = .ok state') : P state'.2 := by
  induction pairs generalizing state with
  | nil =>
    obtain rfl := Except.ok.inj h
    exact hs
  | cons p ps ih =>
    obtain ⟨mid, hmid, h⟩ := bind_eq_ok.mp h
    have hstep := readPair_keeps hf (hp p List.mem_cons_self) hs hmid
    exact ih (fun q hq => hp q (List.mem_cons_of_mem p hq)) hstep h

include hw in
/-- **What every field keeps holds of the record that is read**, if it holds of the record that is
started with. -/
theorem readRecord_keeps {P : ρ → Prop} {fields : List (FieldReader ε ρ)}
    (hf : ∀ f ∈ fields, f.Keeps n P) {zero r : ρ} (hzero : P zero)
    (h : readRecord lift fields zero item = .ok r) : P r := by
  obtain ⟨v, hv, h⟩ := bind_eq_ok.mp h
  have hvalue := value_within hw (mapError_eq_ok.mp hv)
  split at h
  · cases hvalue with
    | map _ hall =>
      obtain ⟨state, hfold, rfl⟩ := map_eq_ok.mp h
      exact foldlM_readPair_keeps hf hall hzero hfold
  · split_ifs at h
    obtain rfl := Except.ok.inj h
    exact hzero

end Reading

end LayerCode.Cbor
