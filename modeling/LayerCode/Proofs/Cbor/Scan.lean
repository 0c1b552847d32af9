import Mathlib.Algebra.GroupWithZero.Nat
import Mathlib.Data.List.Forall2
import LayerCode.Cbor.Scan
import LayerCode.Cbor.Write
import LayerCode.Proofs.Outcome

/-!
# Scanning what was written

A writer gives the bytes of an item in one form, and a scanner takes that item off the front of any
bytes that start with them.

* `scanHead_head`: the head of an item, whatever its width;
* `Scans`: bytes that are scanned as an item, at a number of levels to go down;
* `scans_int`, `scans_text`, `scans_bytes`, `scans_bool`: items without elements;
* `Takes`: the same for the elements of an array or the pairs of a map;
* **`scans_array`**, **`scans_map`**: items with elements that are scanned one level further down.
-/

namespace LayerCode.Cbor

open Text Outcome

/-! ## Numbers and heads -/

theorem takeBytes_append (bytes rest : List UInt8) :
    takeBytes bytes.length (bytes ++ rest) = .ok (bytes, rest) := by
  simp [takeBytes]

theorem length_bigEndian (width n : Nat) : (Write.bigEndian width n).length = width := by
  induction width generalizing n with
  | zero => rfl
  | succ width ih => rw [Write.bigEndian, List.length_append, ih, List.length_singleton]

theorem bigEndian_concat (bytes : List UInt8) (b : UInt8) :
    bigEndian (bytes ++ [b]) = bigEndian bytes * 256 + b.toNat := by
  rw [bigEndian, List.foldl_append]
  rfl

theorem bigEndian_bigEndian {width n : Nat} (h : n < 256 ^ width) :
    bigEndian (Write.bigEndian width n) = n := by
  induction width generalizing n with
  | zero =>
    have : n = 0 := by simpa using h
    rw [this]; rfl
  | succ width ih =>
    have hdiv : n / 256 < 256 ^ width := by
      rw [Nat.pow_succ] at h
      exact Nat.div_lt_of_lt_mul (by rwa [Nat.mul_comm])
    rw [Write.bigEndian, bigEndian_concat, ih hdiv, UInt8.toNat_ofNat']
    omega

theorem scanNumber_bigEndian {width n : Nat} (h : n < 256 ^ width) (rest : List UInt8) :
    scanNumber width (Write.bigEndian width n ++ rest) = .ok (n, rest) := by
  have ht := takeBytes_append (Write.bigEndian width n) rest
  rw [length_bigEndian] at ht
  simp only [scanNumber, ht, ok_bind, bigEndian_bigEndian h, pure_eq_ok]

/-- The initial byte holds the major type and the additional information. -/
theorem scanHead_cons {major info : Nat} (hm : major ≤ 7) (hi : info < 32) {n : Nat}
    {bytes rest : List UInt8} (h : scanArgument major info bytes = .ok (n, rest)) :
    scanHead (UInt8.ofNat (major * 32 + info) :: bytes) = .ok (⟨major, info, n⟩, rest) := by
  have hb : (UInt8.ofNat (major * 32 + info)).toNat = major * 32 + info := by
    rw [UInt8.toNat_ofNat']; omega
  have h1 : (major * 32 + info) / 32 = major := by omega
  have h2 : (major * 32 + info) % 32 = info := by omega
  simp only [scanHead, hb, h1, h2, h, ok_bind, pure_eq_ok]

/-- **A written head is scanned back**, and is not an open one. -/
theorem scanHead_head (major n : Nat) (hm : major ≤ 6) (hn : n < 2 ^ 64) :
    ∃ info, info ≠ 31 ∧
      ∀ rest, scanHead (Write.head major n ++ rest) = .ok (⟨major, info, n⟩, rest) := by
  unfold Write.head
  split_ifs with h1 h2 h3 h4
  · refine ⟨n, by omega, fun rest => ?_⟩
    rw [List.cons_append]
    refine scanHead_cons (by omega) (by omega) ?_
    rw [scanArgument, if_pos h1, List.nil_append]
  · refine ⟨24, by omega, fun rest => ?_⟩
    rw [List.cons_append]
    refine scanHead_cons (by omega) (by omega) ?_
    rw [scanArgument, if_neg (by omega), if_pos rfl, scanNumber_bigEndian h2, ok_bind]
    exact if_neg (by omega)
  · refine ⟨25, by omega, fun rest => ?_⟩
    rw [List.cons_append]
    refine scanHead_cons (by omega) (by omega) ?_
    rw [scanArgument, if_neg (by omega), if_neg (by omega), if_pos rfl, scanNumber_bigEndian h3]
  · refine ⟨26, by omega, fun rest => ?_⟩
    rw [List.cons_append]
    refine scanHead_cons (by omega) (by omega) ?_
    rw [scanArgument, if_neg (by omega), if_neg (by omega), if_neg (by omega), if_pos rfl,
      scanNumber_bigEndian h4]
  · refine ⟨27, by omega, fun rest => ?_⟩
    rw [List.cons_append]
    refine scanHead_cons (by omega) (by omega) ?_
    rw [scanArgument, if_neg (by omega), if_neg (by omega), if_neg (by omega), if_neg (by omega),
      if_pos rfl, scanNumber_bigEndian hn]

/-! ## Items without elements -/

/-- The scanners of the level inside a level. -/
def inside : Nat → Option Level
  | 0 => none
  | n + 1 => some (level n)

theorem level_item (n : Nat) : (level n).item = scanItem (inside n) := by
  cases n <;> rfl

/-- The bytes are scanned as the item, with `n` levels to go down and whatever follows them. -/
def Scans (n : Nat) (bytes : List UInt8) (item : Item) : Prop :=
  ∀ rest, (level n).item (bytes ++ rest) = .ok (item, rest)

/-- An item is scanned when its head is and the rest is its body. -/
theorem scans_of_body {n : Nat} {head body : List UInt8} {h : Head} {item : Item}
    (hhead : ∀ rest, scanHead (head ++ rest) = .ok (h, rest)) (hm : h.major ≠ 6)
    (hbody : ∀ rest, scanBody (inside n) h (body ++ rest) = .ok (item, rest)) :
    Scans n (head ++ body) item := by
  intro rest
  rw [level_item, List.append_assoc, scanItem, hhead, ok_bind]
  exact (if_neg hm).trans (hbody rest)

/-- The item of a whole number. -/
def Item.ofInt (k : Int64) : Item :=
  if 0 ≤ k then .unsigned k.toInt.toNat else .negative (-1 - k.toInt).toNat

theorem scans_int (n : Nat) (k : Int64) : Scans n (Write.int k) (.ofInt k) := by
  have hlow := Int64.le_toInt k
  have hhigh := Int64.toInt_lt k
  unfold Write.int Item.ofInt
  split_ifs with hk
  · obtain ⟨info, -, hs⟩ := scanHead_head 0 k.toInt.toNat (by omega) (by omega)
    rw [← List.append_nil (Write.head _ _)]
    exact scans_of_body hs (by simp) fun _ => rfl
  · obtain ⟨info, -, hs⟩ :=
      scanHead_head 1 (-1 - k.toInt).toNat (by omega) (by omega)
    rw [← List.append_nil (Write.head _ _)]
    exact scans_of_body hs (by simp) fun _ => rfl

theorem scanStringBody_append {h : Head} {content : List UInt8} (hi : h.info ≠ 31)
    (hn : h.argument = content.length) (hl : content.length ≤ maxLength) (rest : List UInt8) :
    scanStringBody h (content ++ rest) = .ok ([content], rest) := by
  have ho : h.isOpen = false := by simpa [Head.isOpen] using hi
  have hl' : ¬ maxLength < content.length := by omega
  simp only [scanStringBody, ho, Bool.false_eq_true, if_false, scanString, hn, if_neg hl',
    takeBytes_append, ok_bind, pure_eq_ok]

theorem scans_bytes (n : Nat) {b : List UInt8} (hl : b.length ≤ maxLength) :
    Scans n (Write.bytes b) (.bytes b) := by
  obtain ⟨info, hi, hs⟩ :=
    scanHead_head 2 b.length (by omega) (by unfold maxLength at hl; omega)
  refine scans_of_body hs (by simp) fun rest => ?_
  simp only [scanBody]
  rw [scanStringBody_append hi rfl hl, ok_bind]
  simp

/-- The text is not beyond the largest length, as no text in memory is. -/
def Addressable (s : String) : Prop := (utf8 s).length ≤ maxLength

instance : DecidablePred Addressable := fun s =>
  inferInstanceAs (Decidable ((utf8 s).length ≤ maxLength))

theorem scans_text (n : Nat) {s : String} (hl : Addressable s) :
    Scans n (Write.text s) (.text [utf8 s]) := by
  unfold Addressable at hl
  obtain ⟨info, hi, hs⟩ :=
    scanHead_head 3 (utf8 s).length (by omega) (by unfold maxLength at hl; omega)
  refine scans_of_body hs (by simp) fun rest => ?_
  simp only [scanBody]
  rw [scanStringBody_append hi rfl hl, ok_bind]
  rfl

theorem scans_bool (n : Nat) (b : Bool) : Scans n (Write.bool b) (.bool b) := by
  intro rest
  rw [level_item]
  cases b <;> rfl

/-! ## Arrays and maps -/

/-- The scanner takes the value off the front of all bytes that start with these. -/
def Takes {α : Type} (s : Scanner α) (bytes : List UInt8) (a : α) : Prop :=
  ∀ rest, s (bytes ++ rest) = .ok (a, rest)

theorem scanCounted_flatten {α : Type} {element : Scanner α} {bs : List (List UInt8)} {as : List α}
    (h : List.Forall₂ (Takes element) bs as) (found : List α) (rest : List UInt8) :
    scanCounted element bs.length found (bs.flatten ++ rest) = .ok (found.reverse ++ as, rest) := by
  induction h generalizing found with
  | nil => simp [scanCounted]
  | cons hb _ ih =>
    rw [List.length_cons, scanCounted, List.flatten_cons, List.append_assoc, hb _, ok_bind]
    simpa using ih (_ :: found)

theorem scanElements_flatten {α : Type} {element : Scanner α} {h : Head} {bs : List (List UInt8)}
    {as : List α} (hi : h.info ≠ 31) (hn : h.argument = bs.length) (hl : bs.length ≤ maxElements)
    (hs : List.Forall₂ (Takes element) bs as) (rest : List UInt8) :
    scanElements element h (bs.flatten ++ rest) = .ok (as, rest) := by
  have ho : h.isOpen = false := by simpa [Head.isOpen] using hi
  have hm : maxElements ≤ maxLength := by decide
  rw [scanElements, ho, hn, if_neg (by simp), if_neg (by omega), if_neg (by omega),
    scanCounted_flatten hs]
  rfl

/-- **An array is scanned when its elements are, one level further down.** -/
theorem scans_array {n : Nat} {bs : List (List UInt8)} {items : List Item}
    (hl : bs.length ≤ maxElements) (h : List.Forall₂ (Scans n) bs items) :
    Scans (n + 1) (Write.array bs) (.array items) := by
  obtain ⟨info, hi, hs⟩ := scanHead_head 4 bs.length (by omega)
    (by unfold maxElements at hl; omega)
  refine scans_of_body hs (by simp) fun rest => ?_
  simp only [scanBody, inside]
  rw [scanElements_flatten hi rfl hl h, ok_bind]
  rfl

/-- The item of a map with texts as keys. -/
def Item.ofEntries (es : List (String × Item)) : Item :=
  .map (es.map fun e => (.text [utf8 e.1], e.2))

/-- The bytes of an entry are scanned as an entry. -/
def ScansEntry (n : Nat) (b : String × List UInt8) (e : String × Item) : Prop :=
  b.1 = e.1 ∧ Addressable e.1 ∧ Scans n b.2 e.2

theorem scansEntry {n : Nat} {tag : String} {bytes : List UInt8} {item : Item}
    (ht : Addressable tag) (h : Scans n bytes item) : ScansEntry n (tag, bytes) (tag, item) :=
  ⟨rfl, ht, h⟩

theorem scanPair_append {n : Nat} {b : String × List UInt8} {e : String × Item}
    (h : ScansEntry n b e) (rest : List UInt8) :
    scanPair (level n).item (Write.text b.1 ++ b.2 ++ rest) =
      .ok ((.text [utf8 e.1], e.2), rest) := by
  obtain ⟨hk, hl, hv⟩ := h
  rw [scanPair, hk, List.append_assoc, scans_text n hl, ok_bind]
  simp only [hv rest, ok_bind, pure_eq_ok]

/-- **A map is scanned when its values are, one level further down.** -/
theorem scans_map {n : Nat} {bs : List (String × List UInt8)} {es : List (String × Item)}
    (hl : bs.length ≤ maxElements) (h : List.Forall₂ (ScansEntry n) bs es) :
    Scans (n + 1) (Write.map bs) (.ofEntries es) := by
  obtain ⟨info, hi, hs⟩ := scanHead_head 5 bs.length (by omega)
    (by unfold maxElements at hl; omega)
  refine scans_of_body hs (by simp) fun rest => ?_
  have hpairs : List.Forall₂ (Takes (scanPair (level n).item))
      (bs.map fun e => Write.text e.1 ++ e.2) (es.map fun e => (Item.text [utf8 e.1], e.2)) := by
    rw [List.forall₂_map_left_iff, List.forall₂_map_right_iff]
    exact h.imp fun _ _ he rest => scanPair_append he rest
  simp only [scanBody, inside, List.flatMap]
  rw [scanElements_flatten hi (List.length_map _).symm (by rwa [List.length_map]) hpairs, ok_bind]
  rfl

end LayerCode.Cbor
