import Mathlib.Data.List.Basic
import LayerCode.Snapshot.Payload

/-!
# Payloads read back

The bytes of values are read back as the values, up to the precision they are stored in: single
precision keeps every bit pattern, half precision keeps the nearest half.

* `singleOf_bytes`, `halfOf_bytes`: a number from its little-endian bytes;
* `Precision.kept`: what is left of a value that was stored;
* **`read_write`**: the values of written bytes;
* `read_size`: how many values bytes hold at most.
-/

namespace LayerCode.Snapshot

/-- What is left of a value that was stored in a precision. -/
def Precision.kept : Precision → UInt32 → UInt32
  | .single, v => v
  | .half, v => Half.toSingle (Half.ofSingle v)

theorem Precision.kept_single : Precision.single.kept = id := rfl

/-- How many bytes a value takes. -/
def Precision.width : Precision → Nat
  | .single => 4
  | .half => 2

theorem Precision.ofName?_name (p : Precision) : Precision.ofName? p.name = some p := by
  cases p <;> rfl

namespace Payload

/-! ## Numbers from their bytes -/

/-- The bits of one byte of a number, shifted back to their places. -/
theorem getLsbD_byte {w : Nat} (v : BitVec w) (k i : Nat) :
    (!decide (i < k) && (decide (i - k < 8) && v.getLsbD (k + (i - k)))) =
      (decide (k ≤ i ∧ i < k + 8) && v.getLsbD i) := by
  by_cases hk : k ≤ i
  · have hlt : i - k < 8 ↔ i < k + 8 := by omega
    rw [Nat.add_sub_cancel' hk]
    simp [hk, hlt]
  · simp [hk]

theorem singleOf_bytes (v : UInt32) :
    singleOf v.toUInt8 (v >>> 8).toUInt8 (v >>> 16).toUInt8 (v >>> 24).toUInt8 = v := by
  refine UInt32.toBitVec_inj.mp (BitVec.eq_of_getLsbD_eq fun i hi => ?_)
  have hbits : (decide (i < 8) || decide (8 ≤ i ∧ i < 8 + 8) || decide (16 ≤ i ∧ i < 16 + 8) ||
      decide (24 ≤ i ∧ i < 24 + 8)) = true := by
    simp only [Bool.or_eq_true, decide_eq_true_eq]
    omega
  calc _ = (decide (i < 8) && v.toBitVec.getLsbD i ||
        !decide (i < 8) && (decide (i - 8 < 8) && v.toBitVec.getLsbD (8 + (i - 8))) ||
        !decide (i < 16) && (decide (i - 16 < 8) && v.toBitVec.getLsbD (16 + (i - 16))) ||
        !decide (i < 24) && (decide (i - 24 < 8) && v.toBitVec.getLsbD (24 + (i - 24)))) := by
        simp [singleOf, hi, -UInt32.toUInt32_toUInt8]
    _ = v.toBitVec.getLsbD i := by
        rw [getLsbD_byte, getLsbD_byte, getLsbD_byte, ← Bool.and_or_distrib_right,
          ← Bool.and_or_distrib_right, ← Bool.and_or_distrib_right, hbits, Bool.true_and]

theorem halfOf_bytes (v : UInt16) :
    (v.toUInt8.toUInt16 ||| (v >>> 8).toUInt8.toUInt16 <<< 8) = v := by
  refine UInt16.toBitVec_inj.mp (BitVec.eq_of_getLsbD_eq fun i hi => ?_)
  have hbits : (decide (i < 8) || decide (8 ≤ i ∧ i < 8 + 8)) = true := by
    simp only [Bool.or_eq_true, decide_eq_true_eq]
    omega
  calc _ = (decide (i < 8) && v.toBitVec.getLsbD i ||
        !decide (i < 8) && (decide (i - 8 < 8) && v.toBitVec.getLsbD (8 + (i - 8)))) := by
        simp [hi, -UInt16.toUInt16_toUInt8]
    _ = v.toBitVec.getLsbD i := by
        rw [getLsbD_byte, ← Bool.and_or_distrib_right, hbits, Bool.true_and]

/-! ## Lists of values -/

theorem singles_flatMap (vs : List UInt32) : singles (vs.flatMap singleBytes) = vs := by
  induction vs with
  | nil => rfl
  | cons v vs ih =>
    rw [List.flatMap_cons, singleBytes]
    simp only [List.cons_append, List.nil_append, singles, ih, singleOf_bytes]

theorem halves_flatMap (vs : List UInt16) : halves (vs.flatMap halfBytes) = vs := by
  induction vs with
  | nil => rfl
  | cons v vs ih =>
    rw [List.flatMap_cons, halfBytes]
    simp only [List.cons_append, List.nil_append, halves, ih, halfOf_bytes]

theorem length_write (p : Precision) (vs : Array UInt32) :
    (write p vs).length = vs.size * p.width := by
  cases p <;> simp [write, singleBytes, halfBytes, Precision.width, List.length_flatMap]

theorem values_write (p : Precision) (vs : Array UInt32) :
    values p (write p vs) = .ok (vs.map p.kept) := by
  have hlen := length_write p vs
  cases p with
  | single =>
    rw [values, if_neg (by rw [hlen, Precision.width]; omega), write, singles_flatMap,
      Precision.kept_single, Array.map_id, Array.toArray_toList]
  | half =>
    have hmap : (vs.toList.flatMap fun v => halfBytes (Half.ofSingle v)) =
        (vs.toList.map Half.ofSingle).flatMap halfBytes := by
      rw [List.flatMap_map]
    rw [values, if_neg (by rw [hlen, Precision.width]; omega), write, hmap, halves_flatMap,
      List.map_map, List.map_toArray, Array.toArray_toList]
    rfl

/-- **Written bytes are read as what the precision keeps of the values.** -/
theorem read_write (p : Precision) (vs : Array UInt32) :
    read p.name (write p vs) = .ok (vs.map p.kept) := by
  have hne : p.name ≠ "" := by cases p <;> decide
  simp only [read, if_neg hne, Precision.ofName?_name, values_write]

theorem length_singles (bytes : List UInt8) : 4 * (singles bytes).length ≤ bytes.length := by
  fun_induction singles bytes with
  | case1 a b c d rest ih =>
    simp only [List.length_cons]
    omega
  | case2 => simp

theorem length_halves (bytes : List UInt8) : 2 * (halves bytes).length ≤ bytes.length := by
  fun_induction halves bytes with
  | case1 a b rest ih =>
    simp only [List.length_cons]
    omega
  | case2 => simp

theorem values_size {p : Precision} {bytes : List UInt8} {vs : Array UInt32}
    (h : values p bytes = .ok vs) : 2 * vs.size ≤ bytes.length := by
  cases p with
  | single =>
    unfold values at h
    dsimp only at h
    split_ifs at h
    obtain rfl := Except.ok.inj h
    have := length_singles bytes
    simp only [List.size_toArray]
    omega
  | half =>
    unfold values at h
    dsimp only at h
    split_ifs at h
    obtain rfl := Except.ok.inj h
    simpa using length_halves bytes

theorem read_size {encoding : String} {bytes : List UInt8} {vs : Array UInt32}
    (h : read encoding bytes = .ok vs) : 2 * vs.size ≤ bytes.length := by
  unfold read at h
  split_ifs at h
  · exact values_size h
  · split at h
    · exact values_size h
    · simp at h

end Payload

end LayerCode.Snapshot
