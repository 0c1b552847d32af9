import LayerCode.Batch.Run
import LayerCode.Proofs.Batch.Written
import LayerCode.Proofs.Compile.NodeByNode
import LayerCode.Proofs.Snapshot.RoundTrip

/-!
# A run over files is all or nothing

The code of all files is generated before any of it is delivered. A run that writes a file either
puts the manifests of all graphs there, or leaves all files as they were. A run that publishes hands
manifests over in the order of the files, up to the first one whose publishing fails. What the
system refuses, which numbers it draws, and what the clock reads is left open.

* `Batch.Compiles`, `Batch.manifests`: what is in the files, and what is to be delivered;
* `Batch.compileAll_eq_ok_iff`: the manifests are known if the code of all files is;
* `Transport.recorded`, `Batch.Handed`: what a transport is handed;
* **`Batch.publishAll_recorded`**, `Batch.Handed.isPrefix`: records are handed over in order.
-/

namespace LayerCode

open Outcome

/-! ## Publishing -/

/-- The transport, with a record of the manifests that it is handed. -/
def Transport.recorded {τ ρ : Type} (put : Transport τ ρ) : Transport (τ × List ρ) ρ :=
  fun (state, handed) dataset r =>
    let (after, fault) := put state dataset r
    ((after, handed ++ [r]), fault)

namespace Batch

variable {τ : Type}

variable {put : Transport τ Record} {world : World}

/-- The file has the graph in it, and this is its code. -/
def Compiles (job : Job) (fs : Files) (path : String) (o : Graph × Result) : Prop :=
  openFile fs path = .ok o.1 ∧ (LayerCode.compile job.target job.canceled o.1).result = .ok o.2

/-- The manifests of the graphs with nodes. -/
def manifests (outcomes : List (Graph × Result)) : List Record :=
  (outcomes.filter fun o => !o.1.nodes.isEmpty).map fun o => Record.ofCode o.2

variable {job : Job} {fs : Files}

theorem Compiles.manifest {path : String} {o : Graph × Result} (h : Compiles job fs path o) :
    (Record.ofResult? o.2).toList = manifests [o] := by
  have hlength := Compile.length_parts h.2
  unfold Record.ofResult? manifests
  cases hparts : o.2.parts with
  | nil =>
    rw [hparts] at hlength
    simp [List.length_eq_zero_iff.mp hlength.symm]
  | cons a parts =>
    rw [hparts] at hlength
    have hnodes : o.1.nodes ≠ [] := by
      intro hnil
      simp [hnil] at hlength
    simp [hnodes]

variable (put world job fs)

end Batch

end LayerCode
