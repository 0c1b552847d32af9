import Mathlib.Data.List.Forall2

/-!
# Computations that may fail

Facts about `Except` that do not depend on what is computed.

* `ok_bind`, `error_bind`, `bind_eq_ok`: a step of a computation;
* `mapM_eq_ok_iff`, `exists_mapM_eq_ok`, `mapM_eq_error_iff`: a computation over a list succeeds if
  every element does, and otherwise fails as the first element that fails;
* `Agree`: two computations that fail alike or succeed with related values.
-/

namespace LayerCode.Outcome

variable {ε ε' α β γ : Type}

@[simp] theorem ok_bind (a : α) (f : α → Except ε β) : (Except.ok a >>= f) = f a := rfl

@[simp] theorem error_bind (e : ε) (f : α → Except ε β) :
    ((Except.error e : Except ε α) >>= f) = .error e := rfl

@[simp] theorem pure_eq_ok (a : α) : (pure a : Except ε α) = .ok a := rfl

@[simp] theorem mapError_ok (f : ε → ε') (a : α) :
    (Except.ok a : Except ε α).mapError f = .ok a := rfl

@[simp] theorem mapError_error (f : ε → ε') (e : ε) :
    (Except.error e : Except ε α).mapError f = .error (f e) := rfl

@[simp] theorem isOk_ok (a : α) : (Except.ok a : Except ε α).isOk = true := rfl

@[simp] theorem isOk_error (e : ε) : (Except.error e : Except ε α).isOk = false := rfl

@[simp] theorem isOk_mapError (f : ε → ε') (x : Except ε α) : (x.mapError f).isOk = x.isOk := by
  cases x <;> rfl

/-- A value with a property that can be decided. -/
theorem exists_ok_of_any {x : Except ε α} {p : α → Prop} [DecidablePred p]
    (h : x.toOption.any (fun a => decide (p a)) = true) : ∃ a, x = .ok a ∧ p a := by
  cases x with
  | error e => exact absurd h Bool.false_ne_true
  | ok a => exact ⟨a, rfl, of_decide_eq_true h⟩

theorem exists_of_isOk {x : Except ε α} (h : x.isOk = true) : ∃ a, x = .ok a := by
  cases x with
  | error e => exact absurd h Bool.false_ne_true
  | ok a => exact ⟨a, rfl⟩

theorem eq_ok_of_toOption {x : Except ε α} {a : α} (h : x.toOption = some a) : x = .ok a := by
  cases x with
  | error e => exact absurd h (by simp [Except.toOption])
  | ok b => rw [Option.some.inj h]

theorem bind_eq_ok {x : Except ε α} {f : α → Except ε β} {b : β} :
    (x >>= f) = .ok b ↔ ∃ a, x = .ok a ∧ f a = .ok b := by
  cases x with
  | error e => simp
  | ok a => simp

theorem map_eq_ok {x : Except ε α} {f : α → β} {b : β} :
    (f <$> x) = .ok b ↔ ∃ a, x = .ok a ∧ f a = b := by
  cases x with
  | error e => simp
  | ok a => simp

theorem mapError_eq_ok {x : Except ε α} {f : ε → ε'} {a : α} :
    x.mapError f = .ok a ↔ x = .ok a := by
  cases x with
  | error e => simp
  | ok a => simp

/-! ## Lists -/

variable {f : α → Except ε β}

theorem mapM_cons_ok {a : α} {b : β} (h : f a = .ok b) (as : List α) :
    (a :: as).mapM f = (b :: ·) <$> as.mapM f := by
  rw [List.mapM_cons, h, ok_bind]
  cases as.mapM f <;> rfl

/-- **A list is computed element by element.** -/
theorem mapM_eq_ok_iff {as : List α} {bs : List β} :
    as.mapM f = .ok bs ↔ List.Forall₂ (fun a b => f a = .ok b) as bs := by
  induction as generalizing bs with
  | nil =>
    rw [List.mapM_nil, pure_eq_ok, List.forall₂_nil_left_iff, Except.ok.injEq, eq_comm]
  | cons a as ih =>
    rw [List.forall₂_cons_left_iff]
    constructor
    · intro h
      rw [List.mapM_cons] at h
      obtain ⟨b, hb, h⟩ := bind_eq_ok.mp h
      obtain ⟨bs', hbs, h⟩ := bind_eq_ok.mp h
      rw [pure_eq_ok, Except.ok.injEq] at h
      exact ⟨b, bs', hb, ih.mp hbs, h.symm⟩
    · rintro ⟨b, bs', hb, hbs, rfl⟩
      rw [mapM_cons_ok hb, ih.mpr hbs, Except.map_ok]

/-- A list whose elements can all be computed is computed. -/
theorem exists_mapM_eq_ok {P : α → β → Prop} {as : List α}
    (h : ∀ a ∈ as, ∃ b, f a = .ok b ∧ P a b) :
    ∃ bs, as.mapM f = .ok bs ∧ List.Forall₂ (fun a b => f a = .ok b ∧ P a b) as bs := by
  induction as with
  | nil => exact ⟨[], rfl, .nil⟩
  | cons a as ih =>
    obtain ⟨b, hb, hP⟩ := h a List.mem_cons_self
    obtain ⟨bs, hbs, hfor⟩ := ih fun x hx => h x (List.mem_cons_of_mem a hx)
    refine ⟨b :: bs, ?_, .cons ⟨hb, hP⟩ hfor⟩
    rw [mapM_cons_ok hb, hbs, Except.map_ok]

theorem mapM_append_eq_ok {as as' : List α} {bs : List β} :
    (as ++ as').mapM f = .ok bs ↔
      ∃ cs ds, as.mapM f = .ok cs ∧ as'.mapM f = .ok ds ∧ bs = cs ++ ds := by
  rw [List.mapM_append]
  constructor
  · intro h
    obtain ⟨cs, hcs, h⟩ := bind_eq_ok.mp h
    obtain ⟨ds, hds, h⟩ := bind_eq_ok.mp h
    exact ⟨cs, ds, hcs, hds, (Except.ok.inj h).symm⟩
  · rintro ⟨cs, ds, hcs, hds, rfl⟩
    rw [hcs, hds, ok_bind, ok_bind, pure_eq_ok]

theorem isOk_mapM (f : α → Except ε β) (as : List α) :
    (as.mapM f).isOk = as.all fun a => (f a).isOk := by
  induction as with
  | nil => rfl
  | cons a as ih =>
    rw [List.all_cons, ← ih]
    cases hfa : f a with
    | error e => simp [List.mapM_cons, hfa]
    | ok b =>
      rw [mapM_cons_ok hfa]
      cases as.mapM f <;> rfl

/-- **A list fails as its first element that fails.** -/
theorem mapM_eq_error_iff {as : List α} {e : ε} :
    as.mapM f = .error e ↔ ∃ before a after, as = before ++ a :: after ∧ f a = .error e ∧
      ∀ x ∈ before, ∃ b, f x = .ok b := by
  induction as with
  | nil => simp
  | cons a as ih =>
    cases hfa : f a with
    | error e' =>
      rw [List.mapM_cons, hfa, error_bind, Except.error.injEq]
      constructor
      · rintro rfl
        exact ⟨[], a, as, rfl, hfa, fun x hx => absurd hx List.not_mem_nil⟩
      · rintro ⟨_ | ⟨x, before⟩, y, after, heq, hy, hbefore⟩
        · obtain ⟨rfl, rfl⟩ := List.cons.inj heq
          exact Except.error.inj (hfa.symm.trans hy)
        · obtain ⟨rfl, rfl⟩ := List.cons.inj heq
          obtain ⟨b, hb⟩ := hbefore a List.mem_cons_self
          exact absurd (hfa.symm.trans hb) (by simp)
    | ok b =>
      have hmap : (a :: as).mapM f = .error e ↔ as.mapM f = .error e := by
        rw [mapM_cons_ok hfa]
        cases as.mapM f <;> simp
      rw [hmap, ih]
      constructor
      · rintro ⟨before, y, after, rfl, hy, hbefore⟩
        exact ⟨a :: before, y, after, rfl, hy, List.forall_mem_cons.mpr ⟨⟨b, hfa⟩, hbefore⟩⟩
      · rintro ⟨_ | ⟨x, before⟩, y, after, heq, hy, hbefore⟩
        · obtain ⟨rfl, rfl⟩ := List.cons.inj heq
          exact absurd (hfa.symm.trans hy) (by simp)
        · obtain ⟨rfl, rfl⟩ := List.cons.inj heq
          exact ⟨before, y, after, rfl, hy, (List.forall_mem_cons.mp hbefore).2⟩

/-- A list with an element that fails, fails as one of its elements does. -/
theorem exists_mapM_eq_error {as : List α} (h : ∃ a ∈ as, ∃ e, f a = .error e) :
    ∃ a ∈ as, ∃ e, f a = .error e ∧ as.mapM f = .error e := by
  cases hmap : as.mapM f with
  | error e =>
    obtain ⟨before, a, after, rfl, ha, -⟩ := mapM_eq_error_iff.mp hmap
    exact ⟨a, List.mem_append_right before List.mem_cons_self, e, ha, rfl⟩
  | ok bs =>
    obtain ⟨a, ha, e, he⟩ := h
    have hall : (as.all fun a => (f a).isOk) = true := by rw [← isOk_mapM, hmap, isOk_ok]
    have := List.all_eq_true.mp hall a ha
    simp [he] at this

theorem mapM_congr {R : α → γ → Prop} {g : γ → Except ε β} {as : List α} {cs : List γ}
    (h : List.Forall₂ R as cs) (hfg : ∀ a c, R a c → g c = f a) : cs.mapM g = as.mapM f := by
  induction h with
  | nil => rfl
  | cons hac _ ih => rw [List.mapM_cons, List.mapM_cons, hfg _ _ hac, ih]

/-! ## Two computations -/

/-- Both fail in the same way, or both succeed with related values. -/
inductive Agree (R : α → β → Prop) : Except ε α → Except ε β → Prop where
  | ok {a : α} {b : β} : R a b → Agree R (.ok a) (.ok b)
  | error (e : ε) : Agree R (.error e) (.error e)

section Agree

variable {α' β' : Type} {R : α → β → Prop} {S : α' → β' → Prop} {x : Except ε α} {y : Except ε β}

theorem Agree.cases (h : Agree R x y) :
    (∃ e, x = .error e ∧ y = .error e) ∨ ∃ a b, x = .ok a ∧ y = .ok b ∧ R a b := by
  cases h with
  | ok hab => exact .inr ⟨_, _, rfl, rfl, hab⟩
  | error e => exact .inl ⟨e, rfl, rfl⟩

theorem Agree.bind (h : Agree R x y) {f : α → Except ε α'} {g : β → Except ε β'}
    (hfg : ∀ a b, R a b → Agree S (f a) (g b)) : Agree S (x >>= f) (y >>= g) := by
  cases h with
  | ok hab => exact hfg _ _ hab
  | error e => exact .error e

theorem Agree.mapError (h : Agree R x y) (f : ε → ε') : Agree R (x.mapError f) (y.mapError f) := by
  cases h with
  | ok hab => exact .ok hab
  | error e => exact .error (f e)

theorem agree_mapM {f : γ → Except ε α} {g : γ → Except ε β} {cs : List γ}
    (h : ∀ c ∈ cs, Agree R (f c) (g c)) : Agree (List.Forall₂ R) (cs.mapM f) (cs.mapM g) := by
  induction cs with
  | nil => exact .ok .nil
  | cons c cs ih =>
    rw [List.forall_mem_cons] at h
    rw [List.mapM_cons, List.mapM_cons]
    refine h.1.bind fun a b hab => ?_
    exact (ih h.2).bind fun as bs hs => .ok (.cons hab hs)

end Agree

end LayerCode.Outcome
