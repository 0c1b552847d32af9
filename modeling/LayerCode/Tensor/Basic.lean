import LayerCode.Text.Listing
import LayerCode.Text.Quoted

/-!
# Weight tensors

A weight is a dense array of single-precision numbers in row-major order, each held as its bit
pattern. A tensor is accepted when its axes are positive and their product is the number of values
given; the product is compared with that number before it grows, so it never leaves 64 bits.

* `Tensor`, `Layout`: a named weight, and the contents that a change would give it;
* `Tensor.make`: the accepted tensors;
* `Tensor.replace`: the weight with other contents, unchecked.
-/

namespace LayerCode

open Text

/-- A named weight in row-major order. -/
structure Tensor where
  name : String
  shape : List Int64
  data : Array UInt32
deriving DecidableEq, Repr

/-- The contents of a tensor, apart from its name. -/
structure Layout where
  shape : List Int64 := []
  data : Array UInt32 := #[]
deriving DecidableEq, Repr

namespace Tensor

/-- Why a tensor is refused, or cannot be reordered. -/
inductive Fault where
  | nonPositiveAxis (name : String) (shape : List Int64)
  | tooLarge (name : String) (shape : List Int64) (given : Nat)
  | wrongCount (name : String) (shape : List Int64) (needed : Int64) (given : Nat)
  | notMatrix (name : String) (rank : Nat)
  | rankMismatch (name : String) (axes : List Int64) (rank : Nat)
  | notPermutation (name : String) (axes : List Int64)
  | noAxes (name : String)
  | inconsistent (name : String)
deriving DecidableEq, Repr

/-- The text of a fault. -/
def Fault.message : Fault → String
  | .nonPositiveAxis name shape =>
    "weight " ++ quoted name ++ ": non-positive dimension in shape " ++ bracketedNumbers shape
  | .tooLarge name shape given =>
    "weight " ++ quoted name ++ ": shape " ++ bracketedNumbers shape ++ " exceeds the " ++
      given.repr ++ " values given"
  | .wrongCount name shape needed given =>
    "weight " ++ quoted name ++ ": shape " ++ bracketedNumbers shape ++ " needs " ++
      decimal needed ++ " values, got " ++ given.repr
  | .notMatrix name rank =>
    "weight " ++ quoted name ++ ": transpose needs 2 axes, has " ++ rank.repr
  | .rankMismatch name axes rank =>
    "weight " ++ quoted name ++ ": permutation " ++ bracketedNumbers axes ++
      " does not match rank " ++ rank.repr
  | .notPermutation name axes =>
    "weight " ++ quoted name ++ ": invalid permutation " ++ bracketedNumbers axes
  | .noAxes name => "weight " ++ quoted name ++ ": unexpected backing type float32"
  | .inconsistent name => "weight " ++ quoted name ++ ": shape does not match data"

/-- A shape that cannot hold a number of values, found while the axes are multiplied. -/
inductive CountFault where
  | nonPositive
  | tooLarge
deriving DecidableEq, Repr

/-- The product of `n` and the axes, as long as it does not exceed the number of values given. -/
def countFrom (given : Int64) : Int64 → List Int64 → Except CountFault Int64
  | n, [] => .ok n
  | n, d :: ds =>
    if d ≤ 0 then .error .nonPositive
    else if given / n < d then .error .tooLarge
    else countFrom given (n * d) ds

/-- The tensor with these contents, if the shape holds exactly the values given. -/
def make (name : String) (shape : List Int64) (data : Array UInt32) : Except Fault Tensor :=
  match countFrom (Int64.ofNat data.size) 1 shape with
  | .error .nonPositive => .error (.nonPositiveAxis name shape)
  | .error .tooLarge => .error (.tooLarge name shape data.size)
  | .ok n =>
    if shape = [] ∨ n.toNatClampNeg ≠ data.size then .error (.wrongCount name shape n data.size)
    else .ok ⟨name, shape, data⟩

/-- The number of axes. -/
def rank (t : Tensor) : Nat := t.shape.length

/-- The contents of a tensor. -/
def layout (t : Tensor) : Layout := ⟨t.shape, t.data⟩

/-- The tensor with other contents; whether its shape holds them is not checked. -/
def replace (t : Tensor) (l : Layout) : Tensor := { t with shape := l.shape, data := l.data }

end Tensor

end LayerCode
