import Mathlib.Algebra.GroupWithZero.Nat
import Mathlib.Order.Bounds.Basic
import Mathlib.Order.MinMax
import LayerCode.Text.EditDistance

/-!
# Edit distance as a least number of edits

An edit inserts, deletes or replaces one element of a list, anywhere. The distance of two lists is
the least number of edits that lead from one to the other. It has a recursion of its own, over the
first elements of both lists, and the rows of the program hold the values of this recursion on the
beginnings of the two texts, read backwards.

* `Edit`, `Edits`: one edit, and a number of them;
* `distance`: the recursion;
* `Edit.distance_le`: an edit moves a list by one at most;
* **`distance_isLeast`**: the recursion gives the least number of edits;
* `row`, `nextRow_row`, `rows_row`: what the rows of the program hold;
* **`editDistance_isLeast`**: the program gives the least number of edits, for texts whose distances
  are 16-bit words.
-/

namespace LayerCode.Text

variable {α : Type}

/-- One element is inserted, deleted, or replaced. -/
inductive Edit : List α → List α → Prop where
  | insert (front back : List α) (a : α) : Edit (front ++ back) (front ++ a :: back)
  | delete (front back : List α) (a : α) : Edit (front ++ a :: back) (front ++ back)
  | replace (front back : List α) (a b : α) : Edit (front ++ a :: back) (front ++ b :: back)

/-- A number of edits, one after another. -/
inductive Edits : Nat → List α → List α → Prop where
  | none (s : List α) : Edits 0 s s
  | more {n : Nat} {s t u : List α} : Edit s t → Edits n t u → Edits (n + 1) s u

/-! ## Edits -/

section Edits

variable {m n : Nat} {s t u : List α}

theorem Edit.symm (h : Edit s t) : Edit t s := by
  cases h with
  | insert front back a => exact .delete front back a
  | delete front back a => exact .insert front back a
  | replace front back a b => exact .replace front back b a

theorem Edit.reverse (h : Edit s t) : Edit s.reverse t.reverse := by
  cases h with
  | insert front back a => simpa using Edit.insert back.reverse front.reverse a
  | delete front back a => simpa using Edit.delete back.reverse front.reverse a
  | replace front back a b => simpa using Edit.replace back.reverse front.reverse a b

theorem Edit.cons (a : α) (h : Edit s t) : Edit (a :: s) (a :: t) := by
  cases h with
  | insert front back b => exact .insert (a :: front) back b
  | delete front back b => exact .delete (a :: front) back b
  | replace front back b c => exact .replace (a :: front) back b c

theorem Edits.concat (h : Edits n s t) (he : Edit t u) : Edits (n + 1) s u := by
  induction h with
  | none s => exact .more he (.none u)
  | more hfirst _ ih => exact .more hfirst (ih he)

theorem Edits.symm (h : Edits n s t) : Edits n t s := by
  induction h with
  | none s => exact .none s
  | more hfirst _ ih => exact ih.concat hfirst.symm

theorem Edits.reverse (h : Edits n s t) : Edits n s.reverse t.reverse := by
  induction h with
  | none s => exact .none s.reverse
  | more hfirst _ ih => exact .more hfirst.reverse ih

theorem Edits.cons (a : α) (h : Edits n s t) : Edits n (a :: s) (a :: t) := by
  induction h with
  | none s => exact .none (a :: s)
  | more hfirst _ ih => exact .more (hfirst.cons a) ih

theorem edits_length (t : List α) : Edits t.length [] t := by
  induction t with
  | nil => exact .none []
  | cons a t ih => exact ih.concat (.insert [] t a)

end Edits

/-! ## The recursion -/

section Distance

variable [DecidableEq α]

/-- The distance of two lists, by what happens to their first elements: they are matched, or the
second one is inserted, or the first one is deleted. -/
def distance : List α → List α → Nat
  | [], t => t.length
  | s, [] => s.length
  | a :: s, b :: t =>
    min (min (distance s t + if a = b then 0 else 1) (distance (a :: s) t + 1))
      (distance s (b :: t) + 1)

@[simp] theorem distance_nil_left (t : List α) : distance [] t = t.length := by
  rw [distance]

@[simp] theorem distance_nil_right (s : List α) : distance s [] = s.length := by
  cases s <;> simp [distance]

theorem distance_cons_cons (a b : α) (s t : List α) :
    distance (a :: s) (b :: t) =
      min (min (distance s t + if a = b then 0 else 1) (distance (a :: s) t + 1))
        (distance s (b :: t) + 1) := by
  rw [distance]

theorem distance_self (s : List α) : distance s s = 0 := by
  induction s with
  | nil => simp
  | cons a s ih => simp [distance_cons_cons, ih]

theorem distance_comm (s t : List α) : distance s t = distance t s := by
  fun_induction distance s t with
  | case1 t => simp
  | case2 s => simp
  | case3 a s b t ihmatch ihinsert ihdelete =>
    rw [distance_cons_cons, ihmatch, ihinsert, ihdelete, min_right_comm]
    simp only [eq_comm]

theorem distance_le_max (s t : List α) : distance s t ≤ max s.length t.length := by
  fun_induction distance s t with
  | case1 t => simp
  | case2 s => simp
  | case3 a s b t ihmatch _ _ =>
    have hmatch : distance s t + (if a = b then 0 else 1) ≤ distance s t + 1 := by
      split_ifs <;> simp
    simp only [List.length_cons]
    omega

/-! ## Single edits -/

theorem distance_cons_left_le (a : α) (s t : List α) : distance (a :: s) t ≤ distance s t + 1 := by
  cases t with
  | nil => simp
  | cons b t =>
    rw [distance_cons_cons]
    exact min_le_right _ _

theorem distance_cons_right_le (s : List α) (b : α) (t : List α) :
    distance s (b :: t) ≤ distance s t + 1 := by
  rw [distance_comm s, distance_comm s]
  exact distance_cons_left_le b t s

theorem distance_le_cons_left (a : α) (s t : List α) : distance s t ≤ distance (a :: s) t + 1 := by
  induction t with
  | nil =>
    simp only [distance_nil_right, List.length_cons]
    omega
  | cons b t ih =>
    have hinsert := distance_cons_right_le s b t
    rw [distance_cons_cons]
    omega

theorem distance_replace_le (a b : α) (s t : List α) :
    distance (a :: s) t ≤ distance (b :: s) t + 1 := by
  induction t with
  | nil => simp
  | cons c t ih =>
    rw [distance_cons_cons, distance_cons_cons]
    split_ifs <;> omega

/-- What holds of lists holds after one more element in front of both. -/
theorem distance_cons_le {s s' : List α} (h : ∀ t, distance s t ≤ distance s' t + 1) (a : α)
    (t : List α) : distance (a :: s) t ≤ distance (a :: s') t + 1 := by
  induction t with
  | nil => simpa using h []
  | cons b t ih =>
    have hmatch := h t
    have hdelete := h (b :: t)
    rw [distance_cons_cons, distance_cons_cons]
    split_ifs <;> omega

/-- **An edit moves a list by one at most.** -/
theorem Edit.distance_le {s s' : List α} (h : Edit s s') (t : List α) :
    distance s t ≤ distance s' t + 1 := by
  -- The induction is on what stands in front of the edited place.
  have hfront : ∀ {x x' : List α}, (∀ t, distance x t ≤ distance x' t + 1) → ∀ front t,
      distance (front ++ x) t ≤ distance (front ++ x') t + 1 := by
    intro x x' hx front
    induction front with
    | nil => exact hx
    | cons a front ih => exact distance_cons_le ih a
  cases h with
  | insert front back a => exact hfront (distance_le_cons_left a back) front t
  | delete front back a => exact hfront (distance_cons_left_le a back) front t
  | replace front back a b => exact hfront (distance_replace_le a b back) front t

/-! ## The least number of edits -/

theorem Edits.distance_le {n : Nat} {s t : List α} (h : Edits n s t) : distance s t ≤ n := by
  induction h with
  | none s => exact (distance_self s).le
  | more hfirst _ ih => exact (hfirst.distance_le _).trans (Nat.succ_le_succ ih)

theorem edits_distance (s t : List α) : Edits (distance s t) s t := by
  fun_induction distance s t with
  | case1 t => exact edits_length t
  | case2 s => exact (edits_length s).symm
  | case3 a s b t ihmatch ihinsert ihdelete =>
    rcases min_choice (min (distance s t + if a = b then 0 else 1) (distance (a :: s) t + 1))
      (distance s (b :: t) + 1) with h | h
    · rw [h]
      rcases min_choice (distance s t + if a = b then 0 else 1) (distance (a :: s) t + 1)
        with h | h
      · rw [h]
        split_ifs with hab
        · exact hab ▸ ihmatch.cons a
        · exact .more (.replace [] s a b) (ihmatch.cons b)
      · rw [h]
        exact ihinsert.concat (.insert [] t b)
    · rw [h]
      exact .more (.delete [] s a) ihdelete

/-- **The recursion gives the least number of edits.** -/
theorem distance_isLeast (s t : List α) : IsLeast {n | Edits n s t} (distance s t) :=
  ⟨edits_distance s t, fun _ h => h.distance_le⟩

theorem distance_reverse (s t : List α) : distance s.reverse t.reverse = distance s t := by
  refine (distance_isLeast s.reverse t.reverse).unique ⟨(edits_distance s t).reverse, ?_⟩
  intro n h
  have hback : Edits n s t := by simpa using Edits.reverse h
  exact hback.distance_le

/-- Where the first elements agree, matching them is best. -/
theorem distance_cons_self (a : α) (s t : List α) : distance (a :: s) (a :: t) = distance s t := by
  have hinsert := distance_le_cons_left a s t
  have hdelete : distance s t ≤ distance s (a :: t) + 1 := by
    rw [distance_comm s, distance_comm s]
    exact distance_le_cons_left a t s
  rw [distance_cons_cons, if_pos rfl]
  omega

end Distance

/-! ## Rows -/

/-- The distances from the text `p` to `q` and to its continuations by the first of the remaining
characters. Both texts are read backwards, so that a continuation stands in front. -/
def row (p q : List Char) : List Char → List Nat
  | [] => [distance p q]
  | d :: ds => distance p q :: row p (d :: q) ds

theorem exists_row (p q ds : List Char) : ∃ above, row p q ds = distance p q :: above := by
  cases ds with
  | nil => exact ⟨[], rfl⟩
  | cons d ds => exact ⟨row p (d :: q) ds, rfl⟩

theorem row_nil (q ds : List Char) : row [] q ds = List.range' q.length (ds.length + 1) := by
  induction ds generalizing q with
  | nil => simp [row, List.range']
  | cons d ds ih => rw [row, ih, distance_nil_left, List.length_cons, ← List.range'_succ]; rfl

/-! ## Words -/

theorem min_ofNat {a b : Nat} (ha : a < 65536) (hb : b < 65536) :
    min (UInt16.ofNat a) (UInt16.ofNat b) = UInt16.ofNat (min a b) := by
  have hle : UInt16.ofNat a ≤ UInt16.ofNat b ↔ a ≤ b := UInt16.ofNat_le_iff_le ha hb
  show (if UInt16.ofNat a ≤ UInt16.ofNat b then UInt16.ofNat a else UInt16.ofNat b) = _
  by_cases hab : a ≤ b
  · rw [if_pos (hle.mpr hab), min_eq_left hab]
  · rw [if_neg (mt hle.mp hab), min_eq_right (by omega)]

theorem ofNat_add_one (n : Nat) : UInt16.ofNat n + 1 = UInt16.ofNat (n + 1) :=
  (UInt16.ofNat_add n 1).symm

/-- One entry of a row, from the three next to it. Distances are below the number of characters,
so adding one does not leave 16 bits. -/
theorem ofNat_distance_cons {c d : Char} {p q : List Char} (hp : p.length + 1 < 65535)
    (hq : q.length + 1 < 65535) :
    (if c = d then UInt16.ofNat (distance p q)
      else min (min (UInt16.ofNat (distance p q) + 1) (UInt16.ofNat (distance (c :: p) q) + 1))
        (UInt16.ofNat (distance p (d :: q)) + 1)) = UInt16.ofNat (distance (c :: p) (d :: q)) := by
  have hmatch := distance_le_max p q
  have hleft := distance_le_max (c :: p) q
  have hup := distance_le_max p (d :: q)
  rw [List.length_cons] at hleft hup
  split_ifs with hcd
  · rw [hcd, distance_cons_self]
  · rw [ofNat_add_one, ofNat_add_one, ofNat_add_one, min_ofNat (by omega) (by omega),
      min_ofNat (by omega) (by omega), distance_cons_cons, if_neg hcd]

/-- **A row gives the next one.** -/
theorem nextRow_row {c : Char} {p q ds : List Char} (hp : p.length + 1 < 65535)
    (hq : q.length + ds.length < 65535) :
    nextRow c ds ((row p q ds).map UInt16.ofNat) (UInt16.ofNat (distance (c :: p) q)) =
      (row (c :: p) q ds).map UInt16.ofNat := by
  induction ds generalizing q with
  | nil => rfl
  | cons d ds ih =>
    rw [List.length_cons] at hq
    obtain ⟨above, habove⟩ := exists_row p (d :: q) ds
    have hrest := ih (q := d :: q) (by rw [List.length_cons]; omega)
    rw [habove] at hrest
    rw [row, row, habove, List.map_cons, List.map_cons, List.map_cons, nextRow,
      ofNat_distance_cons hp (by omega)]
    rw [← hrest, List.map_cons]

/-- **The last row**, after all characters of a text. -/
theorem rows_row {columns : List Char} (p cs : List Char) (hp : p.length + cs.length < 65535)
    (hcolumns : columns.length < 65535) :
    rows columns cs (UInt16.ofNat p.length) ((row p [] columns).map UInt16.ofNat) =
      (row (cs.reverse ++ p) [] columns).map UInt16.ofNat := by
  induction cs generalizing p with
  | nil => rfl
  | cons c cs ih =>
    rw [List.length_cons] at hp
    have hfirst : UInt16.ofNat (p.length + 1) = UInt16.ofNat (distance (c :: p) []) := by simp
    rw [rows, ofNat_add_one, hfirst, nextRow_row (by omega) (by simpa using hcolumns), ← hfirst]
    have hrest := ih (c :: p) (by rw [List.length_cons]; omega)
    rw [List.length_cons] at hrest
    rw [hrest, List.reverse_cons, List.append_assoc, List.singleton_append]

/-! ## Texts -/

theorem getLastD_row (p q ds : List Char) (w : UInt16) :
    ((row p q ds).map UInt16.ofNat).getLastD w = UInt16.ofNat (distance p (ds.reverse ++ q)) := by
  induction ds generalizing q w with
  | nil => rfl
  | cons d ds ih =>
    rw [row, List.map_cons, List.getLastD_cons, ih]
    simp

theorem distanceOf_eq {short long : List Char} (hshort : short.length < 65535)
    (hlong : long.length < 65535) : distanceOf short long = UInt16.ofNat (distance short long) := by
  have hstart : (List.range (short.length + 1)).map UInt16.ofNat =
      (row [] [] short).map UInt16.ofNat := by
    rw [row_nil, List.length_nil, List.range_eq_range']
  have hrows : rows short long 0 ((row [] [] short).map UInt16.ofNat) =
      (row (long.reverse ++ []) [] short).map UInt16.ofNat :=
    rows_row [] long (by simpa using hlong) hshort
  rw [distanceOf, hstart, hrows, getLastD_row, List.append_nil, List.append_nil, distance_reverse,
    distance_comm]

theorem editDistance_eq {s t : String} (hs : s.length < 65535) (ht : t.length < 65535) :
    editDistance s t = distance s.toList t.toList := by
  rw [← String.length_toList] at hs ht
  have hmax := distance_le_max s.toList t.toList
  have hword : (UInt16.ofNat (distance s.toList t.toList)).toNat = distance s.toList t.toList :=
    UInt16.toNat_ofNat_of_lt (by show _ < 65536; omega)
  rw [editDistance]
  split_ifs
  · rw [distanceOf_eq ht hs, distance_comm, hword]
  · rw [distanceOf_eq hs ht, hword]

/-- **The program gives the least number of edits.** -/
theorem editDistance_isLeast {s t : String} (hs : s.length < 65535) (ht : t.length < 65535) :
    IsLeast {n | Edits n s.toList t.toList} (editDistance s t) := by
  rw [editDistance_eq hs ht]
  exact distance_isLeast s.toList t.toList

end LayerCode.Text
