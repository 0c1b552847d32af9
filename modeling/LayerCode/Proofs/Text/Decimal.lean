import LayerCode.Text.Listing

/-!
# Numbers in a text

* `append_inj_of_span`: a text is split in one way where characters of a kind end;
* `mem_decimal`, `decimal_ne_nil`, `exists_getLast?_decimal`: a number is written with digits and a
  minus sign, at least one of them, and ends in a digit;
* **`decimal_inj`**: different numbers are written differently;
* **`append_decimal_inj`**: a number behind a text without digits is told apart from the text.
-/

namespace LayerCode.Text

theorem append_inj_of_span {p : Char → Bool} {s s' cs cs' : List Char} {c c' : Char}
    (hs : ∀ a ∈ s, p a = true) (hs' : ∀ a ∈ s', p a = true) (hc : p c = false)
    (hc' : p c' = false) (h : s ++ c :: cs = s' ++ c' :: cs') : s = s' ∧ c :: cs = c' :: cs' := by
  have hspan := congrArg (List.takeWhile p) h
  rw [List.takeWhile_append_of_pos hs, List.takeWhile_append_of_pos hs', List.takeWhile_cons,
    List.takeWhile_cons, hc, hc'] at hspan
  obtain rfl : s = s' := by simpa using hspan
  exact ⟨rfl, List.append_cancel_left h⟩

theorem repr_inj {m n : Nat} (h : m.repr = n.repr) : m = n := by
  have hdigits := congrArg String.toList h
  rw [Nat.toList_repr, Nat.toList_repr] at hdigits
  rw [← Nat.ofDigitChars_ten_toDigits (n := m), hdigits, Nat.ofDigitChars_ten_toDigits]

theorem isDigit_of_mem_repr {n : Nat} {c : Char} (h : c ∈ n.repr.toList) : c.isDigit = true := by
  rw [Nat.toList_repr] at h
  exact Nat.isDigit_of_mem_toDigits (by decide) (by decide) h

theorem mem_decimal {n : Int64} {c : Char} (h : c ∈ (decimal n).toList) :
    c.isDigit = true ∨ c = '-' := by
  rw [decimal, Int.repr_eq_if] at h
  split at h
  · exact .inl (isDigit_of_mem_repr h)
  · rw [String.toList_append, List.mem_append] at h
    rcases h with h | h
    · exact .inr (List.mem_singleton.mp h)
    · exact .inl (isDigit_of_mem_repr h)

theorem decimal_ne_nil (n : Int64) : (decimal n).toList ≠ [] := by
  rw [decimal, Int.repr_eq_if]
  split
  · rw [Nat.toList_repr]
    exact Nat.toDigits_ne_nil
  · rw [String.toList_append]
    exact List.append_ne_nil_of_left_ne_nil (by decide) _

/-- A number ends in a digit. -/
theorem exists_getLast?_decimal (n : Int64) :
    ∃ c, (decimal n).toList.getLast? = some c ∧ c.isDigit = true := by
  have hrepr : ∀ m : Nat, ∃ c, m.repr.toList.getLast? = some c ∧ c.isDigit = true := by
    intro m
    have hne : m.repr.toList ≠ [] := by
      rw [Nat.toList_repr]
      exact Nat.toDigits_ne_nil
    exact ⟨_, List.getLast?_eq_some_getLast hne, isDigit_of_mem_repr (List.getLast_mem hne)⟩
  rw [decimal, Int.repr_eq_if]
  split
  · exact hrepr _
  · obtain ⟨c, hc, hdigit⟩ := hrepr (-n.toInt).toNat
    exact ⟨c, by rw [String.toList_append, List.getLast?_append, hc, Option.some_or], hdigit⟩

/-- A minus sign and digits are no digits alone. -/
theorem repr_ne_neg (m n : Nat) : m.repr ≠ "-" ++ n.repr := by
  intro h
  have hmem : '-' ∈ m.repr.toList := by
    rw [h, String.toList_append]
    exact List.mem_append_left _ List.mem_cons_self
  exact absurd (isDigit_of_mem_repr hmem) (by decide)

/-- **Different numbers are written differently.** -/
theorem decimal_inj {m n : Int64} (h : decimal m = decimal n) : m = n := by
  refine Int64.toInt_inj.mp ?_
  rw [decimal, decimal, Int.repr_eq_if, Int.repr_eq_if] at h
  split at h <;> split at h
  · have := repr_inj h
    omega
  · exact absurd h (repr_ne_neg _ _)
  · exact absurd h.symm (repr_ne_neg _ _)
  · have hchars := congrArg String.toList h
    rw [String.toList_append, String.toList_append, List.append_cancel_left_eq,
      String.toList_inj] at hchars
    have := repr_inj hchars
    omega

/-- The character may stand in a number. -/
def inNumber (c : Char) : Bool := c.isDigit || c == '-'

theorem decimal_eq_cons (n : Int64) : ∃ c cs, (decimal n).toList = c :: cs ∧ inNumber c = true := by
  obtain ⟨c, cs, hcs⟩ := List.exists_cons_of_ne_nil (decimal_ne_nil n)
  have hmem : c ∈ (decimal n).toList := hcs ▸ List.mem_cons_self
  exact ⟨c, cs, hcs, by simpa [inNumber] using mem_decimal hmem⟩

/-- **A number behind a text that holds no character of a number can be read off.** -/
theorem append_decimal_inj {s s' : String} (hs : s.toList.any inNumber = false)
    (hs' : s'.toList.any inNumber = false) {m n : Int64} (h : s ++ decimal m = s' ++ decimal n) :
    s = s' ∧ m = n := by
  obtain ⟨c, cs, hcs, hc⟩ := decimal_eq_cons m
  obtain ⟨c', cs', hcs', hc'⟩ := decimal_eq_cons n
  have hspan : ∀ {t : String}, t.toList.any inNumber = false →
      ∀ a ∈ t.toList, (!inNumber a) = true := by
    intro t ht a ha
    simpa using List.any_eq_false.mp ht a ha
  have hchars := congrArg String.toList h
  rw [String.toList_append, String.toList_append, hcs, hcs'] at hchars
  -- Both texts end at the first character that may stand in a number.
  obtain ⟨hstem, hnumber⟩ :=
    append_inj_of_span (hspan hs) (hspan hs') (by rw [hc]; rfl) (by rw [hc']; rfl) hchars
  rw [← hcs, ← hcs', String.toList_inj] at hnumber
  exact ⟨String.toList_inj.mp hstem, decimal_inj hnumber⟩

end LayerCode.Text
