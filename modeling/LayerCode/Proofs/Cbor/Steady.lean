import LayerCode.Cbor.Scan
import LayerCode.Proofs.Outcome

/-!
# Scanning with more bytes behind

A scanner goes through the bytes from the left and stops at the end of its item or at the first
problem. Bytes that follow are not looked at, unless the item was not over: only the fault that the
bytes end too soon can be overcome by more of them.

* `Continues`: what may become of the outcome of a scanner when more bytes follow;
* `Steady`: a scanner whose outcomes become nothing else;
* `scanHead_steady`, `scanStringBody_steady`, `scanElements_steady`: the parts of an item;
* **`level_steady`**, `scan_continues`: items at every level, and the first item of the bytes;
* `scan_of_proper_prefix`: bytes that are one item, cut short.
-/

namespace LayerCode.Cbor

open Outcome

variable {α β : Type}

/-- The second outcome is what becomes of the first one when more bytes follow: they are left over
too, and a fault stays, unless the bytes ended too soon. -/
inductive Continues (after : List UInt8) :
    Except Fault (α × List UInt8) → Except Fault (α × List UInt8) → Prop where
  | ok (a : α) (rest : List UInt8) : Continues after (.ok (a, rest)) (.ok (a, rest ++ after))
  | error (e : Fault) : Continues after (.error e) (.error e)
  | short (r : Except Fault (α × List UInt8)) : Continues after (.error .unexpectedEof) r

/-- Bytes that follow do not change what the scanner finds, unless the bytes end too soon. -/
def Steady (s : Scanner α) : Prop := ∀ bytes after, Continues after (s bytes) (s (bytes ++ after))

section Continues

variable {after : List UInt8} {r r' : Except Fault (α × List UInt8)}

theorem Continues.bind (h : Continues after r r')
    {f f' : α × List UInt8 → Except Fault (β × List UInt8)}
    (hf : ∀ a rest, Continues after (f (a, rest)) (f' (a, rest ++ after))) :
    Continues after (r >>= f) (r' >>= f') := by
  cases h with
  | ok a rest => exact hf a rest
  | error e => exact .error e
  | short r => exact .short _

theorem Continues.cases (h : Continues after r r') :
    (∃ a rest, r = .ok (a, rest) ∧ r' = .ok (a, rest ++ after)) ∨
      (∃ e, r = .error e ∧ r' = .error e) ∨ r = .error .unexpectedEof := by
  cases h with
  | ok a rest => exact .inl ⟨a, rest, rfl, rfl⟩
  | error e => exact .inr (.inl ⟨e, rfl, rfl⟩)
  | short r => exact .inr (.inr rfl)

end Continues

/-! ## Heads and strings -/

theorem takeBytes_steady (n : Nat) : Steady (takeBytes n) := by
  intro bytes after
  unfold takeBytes
  by_cases hn : n ≤ bytes.length
  · have htake : (bytes ++ after).take n = bytes.take n := List.take_append_of_le_length hn
    have hdrop : (bytes ++ after).drop n = bytes.drop n ++ after := List.drop_append_of_le_length hn
    have hlen : (bytes.take n).length = n := by rw [List.length_take]; omega
    simp only [htake, hdrop, if_pos hlen]
    exact .ok _ _
  · have hlen : (bytes.take n).length ≠ n := by rw [List.length_take]; omega
    simp only [if_neg hlen]
    exact .short _

theorem scanNumber_steady (width : Nat) : Steady (scanNumber width) := fun bytes after =>
  (takeBytes_steady width bytes after).bind fun _ _ => .ok _ _

theorem scanArgument_steady (major info : Nat) : Steady (scanArgument major info) := by
  intro bytes after
  unfold scanArgument
  split_ifs
  · exact .ok _ _
  · refine (scanNumber_steady 1 bytes after).bind fun n rest => ?_
    dsimp only
    split_ifs
    · exact .error _
    · exact .ok _ _
  · exact scanNumber_steady 2 bytes after
  · exact scanNumber_steady 4 bytes after
  · exact scanNumber_steady 8 bytes after
  · exact .ok _ _
  · exact .error _

theorem scanHead_steady : Steady scanHead := by
  intro bytes after
  cases bytes with
  | nil => exact .short _
  | cons b bytes => exact (scanArgument_steady _ _ bytes after).bind fun _ _ => .ok _ _

theorem scanString_steady (length : Nat) : Steady (scanString length) := by
  intro bytes after
  unfold scanString
  split_ifs
  · exact .error _
  · exact takeBytes_steady length bytes after

/-- More bytes mean more fuel, and a string that was over before its fuel was does not use it. -/
theorem scanChunks_continues (major : Nat) {fuel fuel' : Nat} (hf : fuel ≤ fuel')
    (chunks : List (List UInt8)) (bytes after : List UInt8) :
    Continues after (scanChunks major fuel chunks bytes)
      (scanChunks major fuel' chunks (bytes ++ after)) := by
  induction fuel generalizing fuel' chunks bytes with
  | zero =>
    rw [scanChunks]
    exact .short _
  | succ fuel ih =>
    obtain ⟨k, rfl⟩ : ∃ k, fuel' = k + 1 := ⟨fuel' - 1, by omega⟩
    cases bytes with
    | nil =>
      rw [scanChunks]
      · exact .short _
      · simp
    | cons b bytes =>
      rw [List.cons_append, scanChunks, scanChunks]
      split_ifs
      · exact .ok _ _
      · exact .error _
      · refine (scanHead_steady (b :: bytes) after).bind fun h rest => ?_
        refine (scanString_steady h.argument rest after).bind fun chunk rest => ?_
        exact ih (by omega) (chunk :: chunks) rest

theorem scanStringBody_steady (h : Head) : Steady (scanStringBody h) := by
  intro bytes after
  unfold scanStringBody
  split_ifs
  · exact scanChunks_continues h.major (by simp) [] bytes after
  · exact (scanString_steady h.argument bytes after).bind fun _ _ => .ok _ _

/-! ## Arrays and maps -/

section Elements

variable {element : Scanner α} (he : Steady element)

include he in
theorem scanCounted_steady (n : Nat) (found : List α) : Steady (scanCounted element n found) := by
  intro bytes after
  induction n generalizing found bytes with
  | zero => exact .ok _ _
  | succ n ih => exact (he bytes after).bind fun a rest => ih (a :: found) rest

include he in
theorem scanOpen_steady (room : Nat) (found : List α) : Steady (scanOpen element room found) := by
  intro bytes after
  induction room generalizing found bytes with
  | zero =>
    cases bytes with
    | nil => exact .short _
    | cons b bytes =>
      rw [List.cons_append, scanOpen, scanOpen]
      split_ifs
      · exact .ok _ _
      · exact (he (b :: bytes) after).bind fun _ _ => .error _
  | succ room ih =>
    cases bytes with
    | nil => exact .short _
    | cons b bytes =>
      rw [List.cons_append, scanOpen, scanOpen]
      split_ifs
      · exact .ok _ _
      · exact (he (b :: bytes) after).bind fun a rest => ih (a :: found) rest

include he in
theorem scanElements_steady (h : Head) : Steady (scanElements element h) := by
  intro bytes after
  unfold scanElements
  split_ifs
  · exact scanOpen_steady he maxElements [] bytes after
  · exact .error _
  · exact .error _
  · exact scanCounted_steady he h.argument [] bytes after

end Elements

theorem scanPair_steady {item : Scanner Item} (hi : Steady item) : Steady (scanPair item) :=
  fun bytes after => (hi bytes after).bind fun _ rest => (hi rest after).bind fun _ _ => .ok _ _

/-! ## Items -/

/-- The scanners of the level are steady. -/
structure Level.Steady (l : Level) : Prop where
  item : Cbor.Steady l.item
  content : Cbor.Steady l.content

section Levels

variable {inner : Option Level} (hin : ∀ l ∈ inner, l.Steady)

include hin in
theorem scanBody_steady (h : Head) : Steady (scanBody inner h) := by
  intro bytes after
  unfold scanBody
  split
  · exact .ok _ _
  · exact .ok _ _
  · exact (scanStringBody_steady h bytes after).bind fun _ _ => .ok _ _
  · exact (scanStringBody_steady h bytes after).bind fun _ _ => .ok _ _
  · cases inner with
    | none => exact .error _
    | some l =>
      exact (scanElements_steady (hin l rfl).item h bytes after).bind fun _ _ => .ok _ _
  · cases inner with
    | none => exact .error _
    | some l =>
      exact (scanElements_steady (scanPair_steady (hin l rfl).item) h bytes after).bind
        fun _ _ => .ok _ _
  · exact .ok _ _

include hin in
theorem scanContent_steady : Steady (scanContent inner) := by
  intro bytes after
  refine (scanHead_steady bytes after).bind fun h rest => ?_
  dsimp only
  split_ifs
  · cases inner with
    | none => exact .error _
    | some l => exact ((hin l rfl).content rest after).bind fun _ _ => .ok _ _
  · exact scanBody_steady hin h rest after

include hin in
theorem scanItem_steady : Steady (scanItem inner) := by
  intro bytes after
  refine (scanHead_steady bytes after).bind fun h rest => ?_
  dsimp only
  split_ifs
  · exact (scanContent_steady hin rest after).bind fun _ _ => .ok _ _
  · exact scanBody_steady hin h rest after

end Levels

/-- **The scanners of every level are steady.** -/
theorem level_steady (n : Nat) : (level n).Steady := by
  induction n with
  | zero => exact ⟨scanItem_steady (by simp), scanContent_steady (by simp)⟩
  | succ n ih => exact ⟨scanItem_steady (by simpa using ih), scanContent_steady (by simpa using ih)⟩

/-! ## The first item -/

/-- Bytes that follow do not change what the first item is, unless it was not over. -/
theorem scan_continues {bytes : List UInt8} (h : bytes ≠ []) (after : List UInt8) :
    Continues after (scan bytes) (scan (bytes ++ after)) := by
  cases bytes with
  | nil => exact absurd rfl h
  | cons b bytes => exact (level_steady maxLevels).item (b :: bytes) after

/-- **Bytes that are one item end too soon wherever they are cut.** -/
theorem scan_of_proper_prefix {bytes after : List UInt8} {item : Item} (ha : after ≠ [])
    (h : scan (bytes ++ after) = .ok (item, [])) :
    scan bytes = .error (if bytes = [] then .eof else .unexpectedEof) := by
  by_cases hb : bytes = []
  · rw [if_pos hb, hb]
    rfl
  · rw [if_neg hb]
    rcases (scan_continues hb after).cases with ⟨a, rest, -, hlong⟩ | ⟨e, -, hlong⟩ | hshort
    · -- had the item been over before, the bytes that were cut off would be left over
      obtain ⟨-, hrest⟩ := Prod.mk.inj (Except.ok.inj (h.symm.trans hlong))
      exact absurd (List.append_eq_nil_iff.mp hrest.symm).2 ha
    · exact absurd (h.symm.trans hlong) (by simp)
    · exact hshort

end LayerCode.Cbor
