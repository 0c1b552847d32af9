import LayerCode.Proofs.Cbor.Steady
import LayerCode.Proofs.Snapshot.NormalForm

/-!
# Where a snapshot ends

A snapshot is the first item of its bytes, and that item says itself where it ends. So bytes behind
it do not matter, whether or not a graph can be read from it; and of the bytes of a graph none can
be missing.

* **`decode_append`**: bytes behind a snapshot;
* **`Graph.Built.decode_proper_prefix`**: a snapshot that was cut short.
-/

namespace LayerCode

open Text Outcome Cbor

namespace Snapshot

/-- **Bytes behind a snapshot do not matter.** Unless the bytes end too soon, the graph that is read
from them, or the fault, is the same whatever follows. -/
theorem decode_append {bytes : List UInt8} (hempty : decode bytes ≠ .error (.document .eof))
    (hshort : decode bytes ≠ .error (.document .unexpectedEof)) (after : List UInt8) :
    decode (bytes ++ after) = decode bytes := by
  have hne : bytes ≠ [] := by
    rintro rfl
    exact hempty rfl
  rcases (scan_continues hne after).cases with ⟨item, rest, hs, hs'⟩ | ⟨e, hs, hs'⟩ | hs
  · simp only [decode, hs, hs', mapError_ok, ok_bind]
  · simp only [decode, hs, hs', mapError_error, error_bind]
  · refine absurd ?_ hshort
    simp only [decode, hs, mapError_error, error_bind]

/-- Bytes behind a dense layer in loose spelling, and behind a head that is none, do not matter. -/
theorem decode_append_loose :
    (decode looseSnapshot).isOk = true ∧
      decode (looseSnapshot ++ [0xff, 0x1c]) = decode looseSnapshot ∧
      decode ([0xa1, 0x1c] ++ looseSnapshot) = .error (.document .malformed) := by
  have hok : (decode looseSnapshot).isOk = true := by decide +kernel
  obtain ⟨g, hg⟩ := exists_of_isOk hok
  have hbad : decode [0xa1, 0x1c] = .error (.document .malformed) := by rfl
  refine ⟨hok, decode_append (by simp [hg]) (by simp [hg]) _, ?_⟩
  rw [decode_append (by simp [hbad]) (by simp [hbad]), hbad]

end Snapshot

open Snapshot

/-- **A snapshot that was cut short is noticed.** A graph that the format can hold is written, in
either precision and with the weights in any order, and the bytes hold a graph. With any of them
missing at the end, the fault is that they end too soon, or that there are none. -/
theorem Graph.Built.decode_proper_prefix {g : Graph} (hb : g.Built) (hs : g.Storable)
    (ha : g.Addressable) (a : Arrangement) (p : Precision) :
    ∃ bytes, encodeWith a.order p.name g = .ok bytes ∧ (Snapshot.decode bytes).isOk = true ∧
      ∀ cut, cut <+: bytes → cut ≠ bytes →
        Snapshot.decode cut = .error (.document (if cut = [] then .eof else .unexpectedEof)) := by
  have hread := decode_graphBytes p hb.wellFormed hs ha fun n _ => a.perm n
  have hscan := scan_of_scans (scans_graph p hb.wellFormed hs ha fun n _ => a.perm n)
  refine ⟨graphBytes p a.order g, encodeWith_name p, by rw [hread, isOk_ok], ?_⟩
  rintro cut ⟨missing, hcut⟩ hne
  have hmissing : missing ≠ [] := by
    rintro rfl
    exact hne (by rw [← hcut, List.append_nil])
  rw [← hcut] at hscan
  simp only [Snapshot.decode, scan_of_proper_prefix hmissing hscan, mapError_error, error_bind]

/-- A dense layer in half precision, with nothing and with a payload missing. -/
theorem Graph.Built.decode_proper_prefix_dense :
    (denseGraph "Resource").Built ∧ (denseGraph "Resource").Storable ∧
      (denseGraph "Resource").Addressable ∧
      ∃ bytes, encodeWith Arrangement.reversed.order "fp16" (denseGraph "Resource") = .ok bytes ∧
        0 < bytes.length ∧ ∀ k < bytes.length,
          Snapshot.decode (bytes.take k) =
            .error (.document (if k = 0 then .eof else .unexpectedEof)) := by
  have hb := denseGraph_built "Resource"
  obtain ⟨bytes, hencode, hok, hcut⟩ :=
    hb.decode_proper_prefix denseGraph_storable denseGraph_addressable .reversed .half
  have hpos : 0 < bytes.length := by
    apply List.length_pos_of_ne_nil
    rintro rfl
    exact absurd hok (by decide)
  refine ⟨hb, denseGraph_storable, denseGraph_addressable, bytes, hencode, hpos, fun k hk => ?_⟩
  have hlen : (bytes.take k).length = k := by rw [List.length_take]; omega
  have hnil : bytes.take k = [] ↔ k = 0 := by rw [← List.length_eq_zero_iff, hlen]
  rw [hcut (bytes.take k) (List.take_prefix k bytes) (fun h => by rw [h] at hlen; omega)]
  simp only [hnil]

end LayerCode
