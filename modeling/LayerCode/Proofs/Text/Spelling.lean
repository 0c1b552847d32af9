import Mathlib.Data.List.Forall2
import LayerCode.Proofs.Text.Listing
import LayerCode.Text.Fold
import LayerCode.Text.Lower

/-!
# Spellings of a strategy

The name of the resource strategy is recognised by its case folding, and printed in lower case. The
two go together for every spelling but one: the long s is folded to an s, and is its own lower case.

* `InCase`, `LongSpelling`: a letter in one of its cases, and the name spelled with the long s;
* `sameWord_iff`, `lower_eq_iff`: the texts that are folded, or put in lower case, to the name;
* **`sameWord_iff_lower_iff`**: the two agree on all texts but the long spellings.
-/

namespace LayerCode.Text

/-- The letters of the name of the resource strategy. -/
def resourceLetters : List Char := "resource".toList

/-- The character is the letter in one of its cases. -/
def InCase (c w : Char) : Prop := c = w ∨ c = w.toUpper

/-- The text is the name of the resource strategy, spelled with the long s and otherwise in letters
of any case. -/
def LongSpelling (s : String) : Prop :=
  ∃ before after, s.toList = before ++ 'ſ' :: after ∧
    List.Forall₂ InCase before "re".toList ∧ List.Forall₂ InCase after "ource".toList

/-! ## Letters -/

theorem bounds_letter {w : Char} (hw : w ∈ resourceLetters) :
    97 ≤ w.toNat ∧ w.toNat ≤ 122 ∧ w.toUpper.toNat + 32 = w.toNat := by
  have hall : resourceLetters.all (fun w =>
      97 ≤ w.toNat ∧ w.toNat ≤ 122 ∧ w.toUpper.toNat + 32 = w.toNat) = true := by decide
  exact of_decide_eq_true (List.all_eq_true.mp hall w hw)

theorem toNat_inj {c d : Char} (h : c.toNat = d.toNat) : c = d :=
  Char.ext (UInt32.toNat_inj.mp h)

theorem eq_toNat_of_ofNat {n : Nat} {w : Char} (h : Char.ofNat n = w) (h0 : w.toNat ≠ 0) :
    n = w.toNat := by
  subst h
  by_cases hv : n.isValidChar
  · have hc : Char.ofNat n = Char.ofNatAux n hv := dif_pos hv
    rw [hc]
    rfl
  · have hc : Char.ofNat n = Char.ofNat 0 := dif_neg hv
    exact absurd (congrArg Char.toNat hc) h0

theorem inCase_of_toNat {c w : Char} (hw : w ∈ resourceLetters) (h : c.toNat + 32 = w.toNat) :
    InCase c w := by
  obtain ⟨-, -, hup⟩ := bounds_letter hw
  exact .inr (toNat_inj (by omega))

theorem inCase_of_toLower {c w : Char} (hw : w ∈ resourceLetters) (h : c.toLower = w) :
    InCase c w := by
  unfold Char.toLower at h
  split at h
  · next hc =>
    refine inCase_of_toNat hw ?_
    have hz : c.val.toNat ≤ 90 := UInt32.le_iff_toNat_le.mp hc.2
    have h32 : (32 : UInt32).toNat = 32 := rfl
    rw [← h]
    show c.val.toNat + 32 = (c.val + 32).toNat
    rw [UInt32.toNat_add, Nat.mod_eq_of_lt (by omega), h32]
  · exact .inl h

/-- Every letter of the name, in each of its cases, is cased and has the letter as its lower case
and as its folding. -/
theorem cases_letter {c w : Char} (hw : w ∈ resourceLetters) (h : InCase c w) :
    isCased c = true ∧ c ≠ capitalSigma ∧ lowerChar c = [w] ∧ foldChar c = [w] ∧ c ≠ 'ſ' := by
  have hall : resourceLetters.all (fun w => [w, w.toUpper].all fun c =>
      isCased c = true ∧ c ≠ capitalSigma ∧ lowerChar c = [w] ∧ foldChar c = [w] ∧
        c ≠ 'ſ') = true := by
    decide +kernel
  refine of_decide_eq_true (List.all_eq_true.mp (List.all_eq_true.mp hall w hw) c ?_)
  rcases h with rfl | rfl <;> simp

/-- Only the ASCII capitals and the Kelvin sign have small ASCII letters as lower case. -/
theorem run_far {run : Nat × Nat × Nat × Int} (h : run ∈ lowerRuns) :
    run = (0x41, 0x5a, 1, 32) ∨ run = (0x212a, 0x212a, 1, -8383) ∨
      (run.2.1 : Int) + run.2.2.2 < 97 ∨ 122 < (run.1 : Int) + run.2.2.2 := by
  revert run
  decide +kernel

/-! ## Lower case -/

/-- The one expansion starts with an i. -/
theorem lookup_lowerExpansions {n : Nat} {cs : List Nat} (h : lowerExpansions.lookup n = some cs) :
    cs = [0x69, 0x307] := by
  simp only [lowerExpansions, List.lookup_cons] at h
  split at h
  · exact (Option.some.inj h).symm
  · exact absurd h (by simp)

theorem lowerChar_eq_cons {c w : Char} {ws : List Char} (hw : w ∈ resourceLetters)
    (h : lowerChar c = w :: ws) : ws = [] ∧ InCase c w := by
  obtain ⟨hlow, hhigh, -⟩ := bounds_letter hw
  unfold lowerChar mapChar at h
  split at h
  · next cs hcs =>
    have hi : w = 'i' := by
      rw [lookup_lowerExpansions hcs] at h
      exact (List.cons.inj h).1.symm
    exact absurd (hi ▸ hw) (by decide)
  · split at h
    · next first last step distance hrun =>
      obtain ⟨hhead, htail⟩ := List.cons.inj h
      have hval := eq_toNat_of_ofNat hhead (by omega)
      have hin := List.find?_some hrun
      simp only [Bool.and_eq_true, decide_eq_true_eq] at hin
      refine ⟨htail.symm, ?_⟩
      rcases run_far (List.mem_of_find?_eq_some hrun) with heq | heq | hfar | hfar
      · simp only [Prod.mk.injEq] at heq
        exact inCase_of_toNat hw (by omega)
      · simp only [Prod.mk.injEq] at heq
        have hk : w = 'k' := toNat_inj (show w.toNat = 0x6b by omega)
        exact absurd (hk ▸ hw) (by decide)
      · simp only at hfar
        omega
      · simp only at hfar
        omega
    · obtain ⟨hhead, htail⟩ := List.cons.inj h
      exact ⟨htail.symm, .inl hhead⟩

theorem lowerChar_ne_nil (c : Char) : lowerChar c ≠ [] := by
  unfold lowerChar mapChar
  split
  · next cs hcs => simp [lookup_lowerExpansions hcs]
  · split <;> simp

/-- The characters that can stand for a character in lower case start with a letter of the name only
if the character is that letter. -/
def LowersTo (c : Char) (out : List Char) : Prop :=
  out ≠ [] ∧ ∀ w ws, w ∈ resourceLetters → out = w :: ws → ws = [] ∧ InCase c w

theorem lowersTo_lowerChar (c : Char) : LowersTo c (lowerChar c) :=
  ⟨lowerChar_ne_nil c, fun _ _ hw h => lowerChar_eq_cons hw h⟩

theorem lowersTo_self (c : Char) : LowersTo c [c] :=
  ⟨by simp, fun _ _ _ h => ⟨(List.cons.inj h).2.symm, .inl (List.cons.inj h).1⟩⟩

theorem lowersTo_lowerInWord (c : Char) (rest : List Char) : LowersTo c (lowerInWord c rest) := by
  unfold lowerInWord
  split
  · refine ⟨by simp, fun w ws hw h => ?_⟩
    have hsigma : ∀ b : Bool, Char.ofNat (if b then 0x3c2 else 0x3c3) ∉ resourceLetters := by
      decide
    exact absurd ((List.cons.inj h).1 ▸ hw) (hsigma _)
  · exact lowersTo_lowerChar c

/-- Lower case goes on behind what the first character becomes. -/
theorem lowerFrom_cons (inWord : Bool) (c : Char) (rest : List Char) :
    ∃ out inWord', lowerFrom inWord (c :: rest) = out ++ lowerFrom inWord' rest ∧
      LowersTo c out := by
  cases inWord with
  | false =>
    rw [lowerFrom]
    split
    · exact ⟨_, true, rfl, lowersTo_lowerChar c⟩
    · exact ⟨[c], false, rfl, lowersTo_self c⟩
  | true =>
    rw [lowerFrom]
    split
    · exact ⟨_, true, rfl, lowersTo_lowerInWord c rest⟩
    · exact ⟨[c], false, rfl, lowersTo_self c⟩

theorem inCase_of_lowerFrom {inWord : Bool} {cs ws : List Char}
    (hws : ∀ w ∈ ws, w ∈ resourceLetters) (h : lowerFrom inWord cs = ws) :
    List.Forall₂ InCase cs ws := by
  induction cs generalizing inWord ws with
  | nil =>
    rw [lowerFrom] at h
    exact h ▸ .nil
  | cons c rest ih =>
    obtain ⟨out, inWord', hout, hne, hlow⟩ := lowerFrom_cons inWord c rest
    rw [hout] at h
    obtain ⟨w, tail, rfl⟩ := List.exists_cons_of_ne_nil hne
    subst h
    have hw : w ∈ resourceLetters := hws w List.mem_cons_self
    obtain ⟨rfl, hcase⟩ := hlow w tail hw rfl
    exact .cons hcase (ih (fun x hx => hws x (List.mem_cons_of_mem w hx)) rfl)

theorem lowerFrom_of_inCase {cs ws : List Char} (h : List.Forall₂ InCase cs ws)
    (hws : ∀ w ∈ ws, w ∈ resourceLetters) (inWord : Bool) : lowerFrom inWord cs = ws := by
  induction h generalizing inWord with
  | nil => rw [lowerFrom]
  | @cons c w cs ws hcase _ ih =>
    obtain ⟨hcased, hsigma, hlow, -⟩ := cases_letter (hws w List.mem_cons_self) hcase
    have hrest := ih (fun x hx => hws x (List.mem_cons_of_mem w hx)) true
    cases inWord with
    | false => rw [lowerFrom, if_pos hcased, hlow, hrest, List.singleton_append]
    | true =>
      rw [lowerFrom, if_pos (by simp [hcased]), lowerInWord, if_neg hsigma, hlow, hrest,
        List.singleton_append]

/-- A text has the name as its lower case if it is the name in letters of any case. -/
theorem lower_eq_iff {s : String} :
    lower s = "resource" ↔ List.Forall₂ InCase s.toList resourceLetters := by
  rw [lower, ← String.toList_inj, String.toList_ofList]
  exact ⟨inCase_of_lowerFrom fun _ hw => hw, fun h => lowerFrom_of_inCase h (fun _ hw => hw) false⟩

/-! ## Folding -/

/-- The character is folded to the letter. -/
def Folds (c w : Char) : Prop := InCase c w ∨ w = 's' ∧ c = 'ſ'

theorem foldChar_cases (c : Char) :
    foldChar c = [c.toLower] ∨ c = 'ſ' ∧ foldChar c = ['s'] ∨ foldChar c = ['s', 's'] ∨
      foldChar c = ['s', 't'] ∨ foldChar c = ['k'] ∨ ∃ xs, foldChar c = 'f' :: xs := by
  unfold foldChar
  split
  case h_2 h => exact .inr (.inl ⟨toNat_inj h, rfl⟩)
  all_goals simp

/-- As long as the name has no two letters that one character is folded to, characters are folded
one by one. -/
theorem foldChar_append {c w : Char} {rest ws : List Char}
    (hws : ∀ x ∈ w :: ws, x ∈ resourceLetters) (hs : (w :: ws).count 's' ≤ 1)
    (h : foldChar c ++ rest = w :: ws) : Folds c w ∧ rest = ws := by
  have hnot : 'f' ∉ w :: ws ∧ 'k' ∉ w :: ws ∧ 't' ∉ w :: ws := by
    refine ⟨fun hx => ?_, fun hx => ?_, fun hx => ?_⟩ <;>
      exact absurd (hws _ hx) (by decide)
  rcases foldChar_cases c with hc | ⟨hc, hs'⟩ | hc | hc | hc | ⟨xs, hc⟩
  · rw [hc] at h
    obtain ⟨hhead, htail⟩ := List.cons.inj h
    exact ⟨.inl (inCase_of_toLower (hws w List.mem_cons_self) hhead), htail⟩
  · rw [hs'] at h
    obtain ⟨hhead, htail⟩ := List.cons.inj h
    exact ⟨.inr ⟨hhead.symm, hc⟩, htail⟩
  · rw [hc] at h
    simp [← h] at hs
  · rw [hc] at h
    simp [← h] at hnot
  · rw [hc] at h
    simp [← h] at hnot
  · rw [hc] at h
    simp [← h] at hnot

theorem folds_of_flatMap {cs ws : List Char} (hws : ∀ w ∈ ws, w ∈ resourceLetters)
    (hs : ws.count 's' ≤ 1) (h : cs.flatMap foldChar = ws) : List.Forall₂ Folds cs ws := by
  induction cs generalizing ws with
  | nil => exact h ▸ .nil
  | cons c cs ih =>
    rw [List.flatMap_cons] at h
    cases ws with
    | nil =>
      rw [List.append_eq_nil_iff] at h
      rcases foldChar_cases c with hc | ⟨-, hc⟩ | hc | hc | hc | ⟨xs, hc⟩ <;> simp [hc] at h
    | cons w ws =>
      obtain ⟨hfold, hrest⟩ := foldChar_append hws hs h
      have hs' : ws.count 's' ≤ 1 := Nat.le_trans (List.count_le_count_cons) hs
      exact .cons hfold (ih (fun x hx => hws x (List.mem_cons_of_mem w hx)) hs' hrest)

theorem flatMap_of_folds {cs ws : List Char} (h : List.Forall₂ Folds cs ws)
    (hws : ∀ w ∈ ws, w ∈ resourceLetters) : cs.flatMap foldChar = ws := by
  induction h with
  | nil => rfl
  | @cons c w cs ws hfold _ ih =>
    have hc : foldChar c = [w] := by
      rcases hfold with hcase | ⟨rfl, rfl⟩
      · exact (cases_letter (hws w List.mem_cons_self) hcase).2.2.2.1
      · decide
    rw [List.flatMap_cons, hc, ih fun x hx => hws x (List.mem_cons_of_mem w hx),
      List.singleton_append]

/-- A text is folded to the name if it is the name in letters of any case, with an s or a long s. -/
theorem sameWord_iff {s : String} :
    sameWord s "resource" = true ↔ List.Forall₂ Folds s.toList resourceLetters := by
  rw [sameWord, beq_iff_eq, fold, ← String.toList_inj, String.toList_ofList]
  exact ⟨folds_of_flatMap (fun _ hw => hw) (by decide), fun h => flatMap_of_folds h fun _ hw => hw⟩

/-! ## Agreement -/

theorem forall₂_middle {R : Char → Char → Prop} {cs as bs : List Char} {w : Char} :
    List.Forall₂ R cs (as ++ w :: bs) ↔ ∃ xs c ys, cs = xs ++ c :: ys ∧
      List.Forall₂ R xs as ∧ R c w ∧ List.Forall₂ R ys bs := by
  constructor
  · intro h
    have hleft := List.forall₂_take_append cs as (w :: bs) h
    have hright := List.forall₂_drop_append cs as (w :: bs) h
    obtain ⟨c, ys, hc, hys, hdrop⟩ := List.forall₂_cons_right_iff.mp hright
    refine ⟨_, c, ys, ?_, hleft, hc, hys⟩
    rw [← hdrop, List.take_append_drop]
  · rintro ⟨xs, c, ys, rfl, hxs, hc, hys⟩
    exact List.rel_append hxs (.cons hc hys)

theorem resourceLetters_eq : resourceLetters = "re".toList ++ 's' :: "ource".toList := by
  decide

theorem inCase_of_folds {cs ws : List Char} (h : List.Forall₂ Folds cs ws) (hs : 's' ∉ ws) :
    List.Forall₂ InCase cs ws := by
  induction h with
  | nil => exact .nil
  | @cons c w cs ws hfold _ ih =>
    rw [List.mem_cons, not_or] at hs
    rcases hfold with hcase | ⟨rfl, -⟩
    · exact .cons hcase (ih hs.2)
    · exact absurd rfl hs.1

/-- The long spellings are those that only folding takes for the name. -/
theorem longSpelling_iff {s : String} :
    LongSpelling s ↔ sameWord s "resource" = true ∧ lower s ≠ "resource" := by
  rw [sameWord_iff, Ne, lower_eq_iff]
  constructor
  · rintro ⟨before, after, hs, hbefore, hafter⟩
    constructor
    · rw [resourceLetters_eq, forall₂_middle]
      exact ⟨before, 'ſ', after, hs, hbefore.imp fun _ _ => .inl, .inr ⟨rfl, rfl⟩,
        hafter.imp fun _ _ => .inl⟩
    · -- No letter of the name has the long s as one of its cases.
      intro hcase
      have hmem : 'ſ' ∈ s.toList := by simp [hs]
      obtain ⟨w, hw, hcw⟩ := exists_of_mem_right hcase.flip hmem
      exact (cases_letter hw hcw).2.2.2.2 rfl
  · rintro ⟨hfold, hcase⟩
    rw [resourceLetters_eq, forall₂_middle] at hfold hcase
    obtain ⟨before, c, after, hs, hbefore, hc, hafter⟩ := hfold
    have hbefore := inCase_of_folds hbefore (by decide)
    have hafter := inCase_of_folds hafter (by decide)
    rcases hc with hc | ⟨-, rfl⟩
    · exact absurd ⟨before, c, after, hs, hbefore, hc, hafter⟩ hcase
    · exact ⟨before, after, hs, hbefore, hafter⟩

theorem sameWord_of_lower {s : String} (h : lower s = "resource") :
    sameWord s "resource" = true := by
  rw [lower_eq_iff] at h
  exact sameWord_iff.mpr (h.imp fun _ _ => .inl)

/-- **Folding and lower case agree on whether a text names the resource strategy, unless it is
spelled with the long s.** -/
theorem sameWord_iff_lower_iff (s : String) :
    (sameWord s "resource" = true ↔ lower s = "resource") ↔ ¬ LongSpelling s := by
  rw [longSpelling_iff, not_and, not_not]
  exact ⟨fun h => h.mp, fun h => ⟨h, sameWord_of_lower⟩⟩

end LayerCode.Text
