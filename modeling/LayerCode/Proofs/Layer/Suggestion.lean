import Mathlib.Data.List.MinMax
import LayerCode.Layer.Variant
import LayerCode.Proofs.Text.EditDistance

/-!
# Suggested names

A text that is not the name of a variant is answered with the name that takes the fewest edits to
get to, if it takes three at most. Among names that are equally near, the one that is declared first
is suggested.

* `Variant.parse_eq_ok_iff`: the texts that are names;
* `Variant.closest_eq_argmin`: the search for the closest name is a leftmost minimum;
* **`Variant.parse_suggests`**.
-/

namespace LayerCode.Variant

open Text

/-! ## Names -/

theorem mem_all (v : Variant) : v ∈ all := by
  cases v <;> decide

theorem find?_name (v : Variant) : (all.find? fun w => w.name == v.name) = some v := by
  cases v <;> rfl

theorem name_length_lt (v : Variant) : v.name.length < 65535 := by
  cases v <;> decide

theorem parse_eq_ok_iff {text : String} {v : Variant} : parse text = .ok v ↔ text = v.name := by
  constructor
  · intro h
    unfold parse at h
    split at h
    · next w hw =>
      have hname := List.find?_some hw
      rw [← Except.ok.inj h]
      exact (eq_of_beq hname).symm
    · split at h <;> exact absurd h (by simp)
  · rintro rfl
    rw [parse, find?_name]

/-! ## The closest name -/

/-- **A search with `nearer` ends at the first of the nearest candidates.** -/
theorem foldl_nearer (d : Variant → Nat) (vs : List Variant) :
    (vs.map fun v => (v, d v)).foldl nearer none = (vs.argmin d).map fun v => (v, d v) := by
  induction vs using List.reverseRecOn with
  | nil => rfl
  | append_singleton vs v ih =>
    rw [List.map_append, List.foldl_append, ih, List.argmin_concat]
    cases vs.argmin d with
    | none => rfl
    | some w =>
      simp only [List.map_cons, List.map_nil, List.foldl_cons, List.foldl_nil, Option.map_some,
        nearer]
      split_ifs <;> rfl

theorem closest_eq_argmin (text : String) :
    closest text =
      (all.argmin fun v => editDistance text v.name).map fun v => (v, editDistance text v.name) :=
  foldl_nearer _ all

theorem exists_closest (text : String) : ∃ v : Variant,
    closest text = some (v, editDistance text v.name) ∧
    (∀ w : Variant, editDistance text v.name ≤ editDistance text w.name) ∧
    ∀ w, all.idxOf w < all.idxOf v → editDistance text v.name < editDistance text w.name := by
  cases hmin : all.argmin fun v => editDistance text v.name with
  | none => exact absurd (List.argmin_eq_none.mp hmin) (by simp [all])
  | some v =>
    obtain ⟨-, hle, hfirst⟩ := List.argmin_eq_some_iff.mp hmin
    refine ⟨v, ?_, fun w => hle w w.mem_all, fun w hw => ?_⟩
    · rw [closest_eq_argmin, hmin, Option.map_some]
    · by_contra hnot
      exact absurd (hfirst w w.mem_all (not_lt.mp hnot)) (not_le.mpr hw)

theorem parse_of_closest {text : String} (hno : ∀ v : Variant, text ≠ v.name) {v : Variant}
    {d : Nat} (h : closest text = some (v, d)) :
    parse text = .error ⟨text, if d ≤ 3 then some v else none⟩ := by
  have hnone : (all.find? fun v => v.name == text) = none :=
    List.find?_eq_none.mpr fun v _ hv => hno v (eq_of_beq hv).symm
  rw [parse, hnone, h]
  rfl

/-- **Reading a name.** A text is read if and only if it is the name of a variant. Otherwise the
error holds a suggestion if and only if some name is at most three edits away, and what is suggested
is the name with the fewest edits, the first in order of declaration. -/
theorem parse_suggests (text : String) (hlen : text.length < 65535) :
    (∀ v, parse text = .ok v ↔ text = v.name) ∧
    ((∀ v : Variant, text ≠ v.name) →
      ∃ (d : Variant → Nat) (e : ParseError), parse text = .error e ∧ e.name = text ∧
        (∀ v, IsLeast {n | Edits n text.toList v.name.toList} (d v)) ∧
        (e.suggestion.isSome = true ↔ ∃ v, d v ≤ 3) ∧
        (e.suggestion = none → e.message = "unknown layer variant " ++ quoted text) ∧
        ∀ v, e.suggestion = some v →
          (∀ w, d v ≤ d w) ∧ (∀ w, all.idxOf w < all.idxOf v → d v < d w) ∧
          e.message = "unknown layer variant " ++ quoted text ++
            (" (did you mean " ++ quoted v.name ++ "?)")) := by
  refine ⟨fun v => parse_eq_ok_iff, fun hno => ?_⟩
  obtain ⟨v, hclosest, hleast, hfirst⟩ := exists_closest text
  have hparse := parse_of_closest hno hclosest
  have hdistance : ∀ v : Variant,
      IsLeast {n | Edits n text.toList v.name.toList} (editDistance text v.name) :=
    fun v => editDistance_isLeast hlen v.name_length_lt
  by_cases hd : editDistance text v.name ≤ 3
  · rw [if_pos hd] at hparse
    refine ⟨_, _, hparse, rfl, hdistance, ⟨fun _ => ⟨v, hd⟩, fun _ => rfl⟩, fun h => ?_,
      fun w hw => ?_⟩
    · exact absurd h (by simp)
    · obtain rfl := Option.some.inj hw
      exact ⟨hleast, hfirst, rfl⟩
  · rw [if_neg hd] at hparse
    refine ⟨_, _, hparse, rfl, hdistance, ⟨fun h => absurd h (by simp), ?_⟩,
      fun _ => String.append_empty, fun w hw => ?_⟩
    · rintro ⟨w, hw⟩
      exact absurd ((hleast w).trans hw) hd
    · exact absurd hw (by simp)

/-- Two names are one edit away, and the first of them is suggested. -/
theorem parse_suggests_tie :
    "Conv3D".length < 65535 ∧ (∀ v : Variant, "Conv3D" ≠ v.name) ∧
      ∃ d : Variant → Nat, (∀ v, IsLeast {n | Edits n "Conv3D".toList v.name.toList} (d v)) ∧
        parse "Conv3D" = .error ⟨"Conv3D", some .conv1D⟩ ∧ ∀ w, d .conv1D ≤ d w := by
  have hno : ∀ v : Variant, "Conv3D" ≠ v.name := by
    intro v
    cases v <;> decide
  obtain ⟨-, herror⟩ := parse_suggests "Conv3D" (by decide)
  obtain ⟨d, e, hparse, -, hleast, -, -, hnearest⟩ := herror hno
  have hconv : parse "Conv3D" = .error ⟨"Conv3D", some .conv1D⟩ := by decide +kernel
  obtain rfl := Except.error.inj (hparse.symm.trans hconv)
  exact ⟨by decide, hno, d, hleast, hconv, (hnearest .conv1D rfl).1⟩

end LayerCode.Variant
