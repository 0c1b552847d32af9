import LayerCode.Number.Format
import LayerCode.Tensor.Basic

/-!
# Reordering the axes of a tensor

A reordered tensor is read off the source by strides: the axes of the result walk through the source
with the stride that their axis has there. Swapping the two axes of a matrix is defined on its own,
as the values go through double precision on the way.

* `Tensor.strides`, `Tensor.offsets`: the row-major strides of a shape, and the offsets that a walk
  with given extents and strides visits;
* `Tensor.permute`: axis `k` of the result is axis `axes[k]` of the source;
* `Tensor.transpose`: the rows of a matrix as columns.
-/

namespace LayerCode.Tensor

/-- The axes of a shape as natural numbers. -/
def extents (shape : List Int64) : List Nat := shape.map Int64.toNatClampNeg

/-- How many values a shape holds. -/
def volume : List Nat → Nat
  | [] => 1
  | d :: ds => d * volume ds

/-- The shape has no negative axis and holds exactly `size` values. -/
def holds (shape : List Int64) (size : Nat) : Bool :=
  shape.all (0 ≤ ·) && volume (extents shape) == size

/-! ## Walking by strides -/

/-- How far apart neighbours along each axis lie in row-major order. -/
def strides : List Nat → List Nat
  | [] => []
  | _ :: ds => volume ds :: strides ds

/-- The offsets that a walk visits, the last axis fastest; each axis has an extent and a stride. -/
def offsets : List (Nat × Nat) → List Nat
  | [] => [0]
  | (extent, stride) :: rest =>
    (List.range extent).flatMap fun i => (offsets rest).map (i * stride + ·)

/-! ## Permutations -/

/-- The axes number every axis of a tensor of this rank once. -/
def isPermutation (rank : Nat) (axes : List Int64) : Bool :=
  axes.length == rank && axes.all (fun a => 0 ≤ a && a.toNatClampNeg < rank) && axes.Nodup

/-- The elements of a list at the given places. -/
def pick {α : Type} (axes : List Int64) (xs : List α) : List α :=
  axes.filterMap fun a => xs[a.toNatClampNeg]?

/-- The contents with their axes reordered: axis `k` of the result is axis `axes[k]` of the
source. -/
def permute (t : Tensor) (axes : List Int64) : Except Fault Layout :=
  if axes.length ≠ t.rank then .error (.rankMismatch t.name axes t.rank)
  else if !isPermutation t.rank axes then .error (.notPermutation t.name axes)
  else if t.shape = [] then .error (.noAxes t.name)
  else if !holds t.shape t.data.size then .error (.inconsistent t.name)
  else
    let walk := pick axes ((extents t.shape).zip (strides (extents t.shape)))
    .ok ⟨pick axes t.shape, ((offsets walk).map (t.data.getD · 0)).toArray⟩

/-! ## Matrices -/

/-- The contents of a matrix with rows and columns swapped, each value taken to double precision and
back. -/
def transpose (t : Tensor) : Except Fault Layout :=
  match t.shape with
  | [rows, cols] =>
    if rows ≤ 0 ∨ cols ≤ 0 ∨ rows.toNatClampNeg * cols.toNatClampNeg ≠ t.data.size then
      .error (.inconsistent t.name)
    else
      .ok ⟨[cols, rows],
        ((List.range cols.toNatClampNeg).flatMap fun c =>
          (List.range rows.toNatClampNeg).map fun r =>
            Double.toSingle (Double.ofSingle (t.data.getD (r * cols.toNatClampNeg + c) 0))).toArray⟩
  | shape => .error (.notMatrix t.name shape.length)

end LayerCode.Tensor
