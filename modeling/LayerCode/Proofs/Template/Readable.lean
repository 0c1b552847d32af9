import LayerCode.Proofs.Outcome
import LayerCode.Proofs.Text.Decimal
import LayerCode.Template.Registry

/-!
# Templates whose values can be read off the text

The text of a template is that of its pieces, one after the other. Where the text behind a value
starts with a mark that the value does not hold, the value can be read off the text, and so can a
last value, behind which there is fixed text only. Two renderings of such a template with the same
text have the same values.

* `Piece.text`, `render_cons_eq_ok`, `render_append_eq_ok`: the text of a template, piece by piece;
* `readable`: the templates whose values can be read off;
* **`text_eq_of_render_eq`**: equal texts have equal values.

The last section says which templates the kernel library has for a node.
-/

namespace LayerCode.Template

open Text Outcome

/-- How paths are looked up. -/
abbrev Resolver := List String → List RawText → Except Cause String

variable {resolve resolve' : Resolver}

/-! ## Piece by piece -/

/-- The text of a piece, given how paths are looked up. -/
def Piece.text (resolve : Resolver) : Piece → Except Cause String
  | .literal text => .ok text
  | .lookup path args => resolve path args

theorem render_eq_mapM (resolve : Resolver) (t : Template) :
    render resolve t = String.join <$> t.mapM (Piece.text resolve) := by
  have hmap : ∀ f : Piece → Except Cause String, (∀ p, f p = p.text resolve) →
      (do pure (String.join (← t.mapM f))) = String.join <$> t.mapM (Piece.text resolve) := by
    intro f hf
    rw [funext hf]
    cases t.mapM (Piece.text resolve) <;> rfl
  exact hmap _ fun p => by cases p <;> rfl

theorem render_cons_eq_ok {p : Piece} {t : Template} {text : String} :
    render resolve (p :: t) = .ok text ↔
      ∃ s rest, p.text resolve = .ok s ∧ render resolve t = .ok rest ∧ text = s ++ rest := by
  simp only [render_eq_mapM, List.mapM_cons]
  constructor
  · intro h
    obtain ⟨texts, htexts, rfl⟩ := map_eq_ok.mp h
    obtain ⟨s, hs, htexts⟩ := bind_eq_ok.mp htexts
    obtain ⟨rest, hrest, htexts⟩ := bind_eq_ok.mp htexts
    obtain rfl := Except.ok.inj htexts
    exact ⟨s, String.join rest, hs, by rw [hrest, Except.map_ok], String.join_cons⟩
  · rintro ⟨s, rest, hs, hrest, rfl⟩
    obtain ⟨texts, htexts, rfl⟩ := map_eq_ok.mp hrest
    rw [hs, ok_bind, htexts, ok_bind, pure_eq_ok, Except.map_ok, String.join_cons]

theorem render_append_eq_ok {t u : Template} {text : String} :
    render resolve (t ++ u) = .ok text ↔
      ∃ s rest, render resolve t = .ok s ∧ render resolve u = .ok rest ∧ text = s ++ rest := by
  induction t generalizing text with
  | nil =>
    have hnil : render resolve [] = .ok "" := rfl
    simp [hnil]
  | cons p t ih =>
    rw [List.cons_append, render_cons_eq_ok]
    constructor
    · rintro ⟨s, rest, hs, hrest, rfl⟩
      obtain ⟨s', rest', hs', hrest', rfl⟩ := ih.mp hrest
      refine ⟨s ++ s', rest', render_cons_eq_ok.mpr ⟨s, s', hs, hs', rfl⟩, hrest', ?_⟩
      exact String.append_assoc.symm
    · rintro ⟨s, rest, hs, hrest, rfl⟩
      obtain ⟨s', rest', hs', hrest', rfl⟩ := render_cons_eq_ok.mp hs
      exact ⟨s', rest' ++ rest, hs', ih.mpr ⟨rest', rest, hrest', hrest, rfl⟩, String.append_assoc⟩

theorem render_congr {t : Template} (h : ∀ p ∈ t, p.text resolve = p.text resolve') :
    render resolve t = render resolve' t := by
  have hsame : List.Forall₂ (fun p q => p = q ∧ p.text resolve = p.text resolve') t t :=
    List.forall₂_same.mpr fun p hp => ⟨rfl, h p hp⟩
  have hmap : t.mapM (Piece.text resolve) = t.mapM (Piece.text resolve') := by
    refine mapM_congr hsame ?_
    rintro p _ ⟨rfl, hp⟩
    exact hp
  rw [render_eq_mapM, render_eq_mapM, hmap]

/-! ## Marks -/

/-- The characters that can end a value. -/
def marks : List Char := [';', ' ']

/-- The text holds no mark. -/
def Unmarked (s : String) : Prop := ∀ c ∈ marks, c ∉ s.toList

/-- The piece is fixed text. -/
def Piece.isLiteral : Piece → Bool
  | .literal _ => true
  | .lookup _ _ => false

/-- The template starts with a mark. -/
def startsMarked : Template → Bool
  | .literal text :: _ => (text.toList.head?.map marks.contains).getD false
  | _ => false

/-- Every value of the template is a plain one with a mark behind it, or the last one. -/
def readable (plain : Piece → Bool) : Template → Bool
  | [] => true
  | p :: t =>
    (p.isLiteral || plain p && startsMarked t || t.all Piece.isLiteral) && readable plain t

theorem exists_mark {t : Template} (h : startsMarked t = true) :
    ∃ c ∈ marks, ∀ (resolve : Resolver) (text : String), render resolve t = .ok text →
      ∃ cs, text.toList = c :: cs := by
  unfold startsMarked at h
  split at h
  · next start t' =>
    cases hstart : start.toList with
    | nil => simp [hstart] at h
    | cons c cs =>
      refine ⟨c, by simpa [hstart] using h, fun resolve text htext => ?_⟩
      obtain ⟨s, rest, hs, -, rfl⟩ := render_cons_eq_ok.mp htext
      obtain rfl := Except.ok.inj hs
      exact ⟨cs ++ rest.toList, by rw [String.toList_append, hstart, List.cons_append]⟩
  · exact absurd h (by simp)

/-- Values without a mark in front of a mark are told apart from what follows. -/
theorem eq_of_append_eq {c : Char} {s s' rest rest' : String} {cs cs' : List Char}
    (hs : c ∉ s.toList) (hs' : c ∉ s'.toList) (hrest : rest.toList = c :: cs)
    (hrest' : rest'.toList = c :: cs') (h : s ++ rest = s' ++ rest') : s = s' := by
  have hchars := congrArg String.toList h
  rw [String.toList_append, String.toList_append, hrest, hrest'] at hchars
  have hspan : ∀ {t : String}, c ∉ t.toList → ∀ a ∈ t.toList, (a != c) = true :=
    fun ht a ha => bne_iff_ne.mpr fun hac => ht (hac ▸ ha)
  have hc : (c != c) = false := bne_self_eq_false c
  exact String.toList_inj.mp (append_inj_of_span (hspan hs) (hspan hs') hc hc hchars).1

section Reading

variable {plain : Piece → Bool}
  (hplain : ∀ p, plain p = true → ∀ s, p.text resolve = .ok s → Unmarked s)
  (hplain' : ∀ p, plain p = true → ∀ s, p.text resolve' = .ok s → Unmarked s)

include hplain hplain' in
/-- The first value can be read off the text. -/
theorem head_eq_of_append_eq {p : Piece} {t : Template}
    (ht : (p.isLiteral || plain p && startsMarked t || t.all Piece.isLiteral) = true)
    {s s' rest rest' : String} (hs : p.text resolve = .ok s) (hs' : p.text resolve' = .ok s')
    (hrest : render resolve t = .ok rest) (hrest' : render resolve' t = .ok rest')
    (h : s ++ rest = s' ++ rest') : s = s' := by
  simp only [Bool.or_eq_true, Bool.and_eq_true] at ht
  rcases ht with (hp | ⟨hp, hmark⟩) | hlast
  · cases p with
    | literal text => exact Except.ok.inj (hs.symm.trans hs')
    | lookup path args => exact absurd hp (by simp [Piece.isLiteral])
  · obtain ⟨c, hc, hstart⟩ := exists_mark hmark
    obtain ⟨cs, hcs⟩ := hstart _ _ hrest
    obtain ⟨cs', hcs'⟩ := hstart _ _ hrest'
    exact eq_of_append_eq (hplain p hp s hs c hc) (hplain' p hp s' hs' c hc) hcs hcs' h
  · -- The same fixed text follows in both.
    have hsame : render resolve t = render resolve' t := by
      refine render_congr fun q hq => ?_
      cases q with
      | literal text => rfl
      | lookup path args => exact absurd (List.all_eq_true.mp hlast _ hq) (by simp [Piece.isLiteral])
    obtain rfl := Except.ok.inj (hrest.symm.trans (hsame.trans hrest'))
    have hchars := congrArg String.toList h
    rw [String.toList_append, String.toList_append, List.append_cancel_right_eq] at hchars
    exact String.toList_inj.mp hchars

include hplain hplain' in
/-- **Equal texts of a readable template have equal values.** -/
theorem text_eq_of_render_eq {t : Template} (ht : readable plain t = true) {text : String}
    (h : render resolve t = .ok text) (h' : render resolve' t = .ok text) :
    ∀ p ∈ t, p.text resolve = p.text resolve' := by
  induction t generalizing text with
  | nil => exact fun p hp => absurd hp List.not_mem_nil
  | cons p t ih =>
    rw [readable, Bool.and_eq_true] at ht
    obtain ⟨s, rest, hs, hrest, rfl⟩ := render_cons_eq_ok.mp h
    obtain ⟨s', rest', hs', hrest', heq⟩ := render_cons_eq_ok.mp h'
    obtain rfl := head_eq_of_append_eq hplain hplain' ht.1 hs hs' hrest hrest' heq
    have hchars := congrArg String.toList heq
    rw [String.toList_append, String.toList_append, List.append_cancel_left_eq,
      String.toList_inj] at hchars
    rw [List.forall_mem_cons]
    exact ⟨hs.trans hs'.symm, ih ht.2 hrest (hchars ▸ hrest')⟩

end Reading

end LayerCode.Template

/-! ## Texts of the kernel library -/

namespace LayerCode.Registry

open Outcome

theorem builtin_config_eq_ok {n : Node} {text : String} : builtin.config n = .ok text ↔
    Template.render (Template.ConfigValues.ofNode n).resolve (Template.builtinConfig n.variant) =
      .ok text := by
  have hlookup : ∀ v : Variant,
      builtin.configs.lookup v.code = some (Template.builtinConfig v) := by
    intro v
    cases v <;> rfl
  rw [config, hlookup]
  exact mapError_eq_ok

theorem builtin_call_eq_ok {n : Node} {tag text : String} : builtin.call n tag = .ok text ↔
    Template.render (Template.CallValues.ofNode n tag).resolve (Template.builtinCall n.variant) =
      .ok text := by
  have hlookup : ∀ v : Variant, builtin.calls.lookup v.code = some (Template.builtinCall v) := by
    intro v
    cases v <;> rfl
  rw [call, hlookup]
  exact mapError_eq_ok

end LayerCode.Registry
