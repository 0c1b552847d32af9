import LayerCode.Proofs.Text.Decimal

/-!
# Words of a text

Generated code is read word by word: a word is a run of letters, digits, underscores and minus signs
that is as long as it can be. Texts that are put together at other characters have the words of
their parts.

* `inWord`, `words`;
* **`words_append_break`**: words end at a break;
* `endsBroken`, `startsBroken`, **`words_append`**, `words_append_append`, `words_intercalate`: the
  words of texts that are put together;
* `words_of_word`, `mem_words_of_number`: texts that are one word.
-/

namespace LayerCode.Text

/-- The character may stand in a word. The sign of a number belongs to it. -/
def inWord (c : Char) : Bool := c.isAlphanum || c == '_' || c == '-'

/-- The words of a text. -/
def words (s : String) : List String :=
  ((s.toList.splitOnP fun c => !inWord c).filter fun w => !w.isEmpty).map String.ofList

@[simp] theorem words_empty : words "" = [] := by
  simp [words]

/-- **Words end at a break.** -/
theorem words_append_break {s t : String} {ds : List Char} {c : Char} (hc : inWord c = false)
    (ht : t.toList = c :: ds) : words (s ++ t) = words s ++ words (String.ofList ds) := by
  unfold words
  rw [String.toList_append, ht, List.splitOnP_append_cons s.toList ds (by simpa using hc),
    List.filter_append, List.map_append, String.toList_ofList]

theorem words_of_break {t : String} {ds : List Char} {c : Char} (hc : inWord c = false)
    (ht : t.toList = c :: ds) : words t = words (String.ofList ds) := by
  have h := words_append_break (s := "") hc ht
  rwa [String.empty_append, words_empty, List.nil_append] at h

/-- The text ends at a break. -/
def endsBroken (s : String) : Bool := s.toList.getLast?.any (!inWord ·)

/-- The text starts with a break. -/
def startsBroken (s : String) : Bool := s.toList.head?.any (!inWord ·)

theorem endsBroken_append {s t : String} (h : endsBroken t = true) :
    endsBroken (s ++ t) = true := by
  obtain ⟨c, hlast, hc⟩ := (Option.any_eq_true _ _).mp h
  rw [endsBroken, String.toList_append, List.getLast?_append, hlast]
  exact hc

theorem startsBroken_append {s t : String} (h : startsBroken s = true) :
    startsBroken (s ++ t) = true := by
  obtain ⟨c, hhead, hc⟩ := (Option.any_eq_true _ _).mp h
  rw [startsBroken, String.toList_append, List.head?_append, hhead]
  exact hc

/-- **The words of two texts that are put together at a break.** -/
theorem words_append {s t : String} (h : endsBroken s = true ∨ startsBroken t = true) :
    words (s ++ t) = words s ++ words t := by
  rcases h with h | h <;> obtain ⟨c, hend, hc⟩ := (Option.any_eq_true _ _).mp h <;>
    replace hc : inWord c = false := by simpa using hc
  · obtain ⟨cs, hcs⟩ := List.getLast?_eq_some_iff.mp hend
    have hs : s = String.ofList cs ++ String.ofList [c] := by
      rw [← String.toList_inj, String.toList_append, String.toList_ofList, String.toList_ofList,
        hcs]
    have hfront : words s = words (String.ofList cs) := by
      rw [hs, words_append_break hc String.toList_ofList]
      simp
    have hbreak : (String.ofList [c] ++ t).toList = c :: t.toList := by
      simp
    rw [hs, String.append_assoc, words_append_break hc hbreak, String.ofList_toList, ← hs, hfront]
  · obtain ⟨ds, hds⟩ := List.head?_eq_some_iff.mp hend
    rw [words_append_break hc hds, words_of_break hc hds]

theorem words_of_breaks {s : String} (h : ∀ c ∈ s.toList, inWord c = false) : words s = [] := by
  obtain ⟨cs, rfl⟩ : ∃ cs, s = String.ofList cs := ⟨s.toList, String.ofList_toList.symm⟩
  rw [String.toList_ofList] at h
  induction cs with
  | nil => exact words_empty
  | cons c cs ih =>
    rw [List.forall_mem_cons] at h
    rw [words_of_break h.1 String.toList_ofList]
    exact ih h.2

/-- The text is not empty and holds no word. -/
def isBreak (sep : String) : Bool := !sep.isEmpty && sep.toList.all fun c => !inWord c

/-- The words of two texts with a text between them that holds no word. -/
theorem words_append_append {sep : String} (hsep : isBreak sep = true) (s t : String) :
    words (s ++ sep ++ t) = words s ++ words t := by
  simp only [isBreak, Bool.and_eq_true, List.all_eq_true] at hsep
  obtain ⟨hne, hall⟩ := hsep
  have hnil : sep.toList ≠ [] := by simpa using hne
  have hstarts : startsBroken sep = true := by
    rw [startsBroken, List.head?_eq_some_head hnil]
    exact hall _ (List.head_mem hnil)
  have hends : endsBroken sep = true := by
    rw [endsBroken, List.getLast?_eq_some_getLast hnil]
    exact hall _ (List.getLast_mem hnil)
  have hnone : words sep = [] := words_of_breaks fun c hc => by simpa using hall c hc
  rw [words_append (.inl (endsBroken_append hends)), words_append (.inr hstarts), hnone,
    List.append_nil]

/-- The words of texts with a comma and a blank between them. -/
theorem words_intercalate (texts : List String) :
    words (", ".intercalate texts) = texts.flatMap words := by
  induction texts with
  | nil => simp
  | cons s texts ih =>
    cases texts with
    | nil => simp
    | cons t texts =>
      rw [String.intercalate_cons_cons, words_append_append rfl, ih, ← List.flatMap_cons]

/-- A text without a break is one word. -/
theorem words_of_word {s : String} (h : s.toList.all inWord = true) (hne : s ≠ "") :
    words s = [s] := by
  have hall : ∀ c ∈ s.toList, (!inWord c) = false := by
    simpa using h
  have hnil : s.toList ≠ [] := by simpa using hne
  rw [words, List.splitOnP_eq_singleton hall]
  simp [hnil]

theorem inWord_of_inNumber {c : Char} (h : inNumber c = true) : inWord c = true := by
  simp only [inNumber, Bool.or_eq_true] at h
  rcases h with hdigit | hsign
  · simp [inWord, Char.isAlphanum, hdigit]
  · simp [inWord, hsign]

theorem all_inNumber_decimal (n : Int64) : (decimal n).toList.all inNumber = true := by
  rw [List.all_eq_true]
  intro c hc
  simpa [inNumber] using mem_decimal hc

theorem all_inNumber_repr (n : Nat) : n.repr.toList.all inNumber = true := by
  rw [List.all_eq_true]
  intro c hc
  simp [inNumber, isDigit_of_mem_repr hc]

/-- The words of a text that is part of a number. -/
theorem mem_words_of_number {s w : String} (h : s.toList.all inNumber = true) (hw : w ∈ words s) :
    w.toList.head?.any inNumber = true := by
  by_cases hs : s = ""
  · simp [hs] at hw
  · have hword : s.toList.all inWord = true := by
      rw [List.all_eq_true] at h ⊢
      exact fun c hc => inWord_of_inNumber (h c hc)
    rw [words_of_word hword hs, List.mem_singleton] at hw
    have hnil : s.toList ≠ [] := by simpa using hs
    rw [hw, List.head?_eq_some_head hnil]
    exact List.all_eq_true.mp h _ (List.head_mem hnil)

end LayerCode.Text
