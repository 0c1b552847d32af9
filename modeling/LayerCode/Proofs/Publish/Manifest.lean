import LayerCode.Proofs.Compile.Wiring
import LayerCode.Proofs.Pass.Atomic
import LayerCode.Publish.Manifest

/-!
# A manifest tells its result

The result that generating code came to can be read back from its manifest. The rows of a table are
those that were added to it: a new row leaves the cells of the others alone, although the place
where the headers of the last row end is from then on the place where those of the new row start.
The headers of the graph are joined to one text, which can be split again, since no header has a
line break in it, and since a graph with nodes has headers.

* **`Table.rows_add`**, `Record.rows_ofCode`: the rows after one row, and after all of them;
* `Family.headers_ne_nil`, `Family.unbroken`: the headers of a family;
* `Record.result`: the result that is read from a record;
* **`Record.result_ofCode`**: what is read from a manifest is what it was made of.
-/

namespace LayerCode

open Text Outcome

/-- The row of the code of a node. -/
def Artifact.row (a : Artifact) : Row := ⟨a.node, a.variant, a.config, a.call, a.headers⟩

/-! ## Tables -/

namespace Table

variable (t : Table) (a : Artifact)

theorem stop_le (i : Fin t.size) : t.stop i ≤ t.headers.size := by
  rw [stop]
  cases h : t.starts[i.val + 1]? with
  | none => exact Nat.le_refl _
  | some start => exact t.starts_le start (Vector.mem_of_getElem? h)

/-- The headers of a row end where they did before, also if it was the last one. -/
theorem stop_add (i : Fin t.size) : (t.add a).stop i.castSucc = t.stop i := by
  show (t.starts.push t.headers.size)[i.val + 1]?.getD _ = t.starts[i.val + 1]?.getD t.headers.size
  rw [Vector.getElem?_push]
  split_ifs with hlast
  · rw [hlast, Vector.getElem?_eq_none (Nat.le_refl _)]
    rfl
  · have hi : i.val + 1 < t.size := by omega
    rw [Vector.getElem?_eq_getElem hi]
    rfl

theorem row_add_castSucc (i : Fin t.size) : (t.add a).row i.castSucc = t.row i := by
  have hheaders : ((t.headers ++ a.headers.toArray).extract (t.starts.push t.headers.size)[i.val]
      ((t.add a).stop i.castSucc)).toList = (t.headers.extract t.starts[i] (t.stop i)).toList := by
    -- The row ends in the old array, so nothing is taken from what is behind it.
    rw [stop_add, Vector.getElem_push_lt i.isLt, Array.extract_append,
      Nat.sub_eq_zero_of_le (t.stop_le i)]
    simp
  show Row.mk (t.node.push a.node)[i.val] (t.variant.push a.variant)[i.val]
    (t.config.push a.config)[i.val] (t.call.push a.call)[i.val] _ = t.row i
  rw [Vector.getElem_push_lt i.isLt, Vector.getElem_push_lt i.isLt, Vector.getElem_push_lt i.isLt,
    Vector.getElem_push_lt i.isLt]
  exact congrArg _ hheaders

theorem row_add_last : (t.add a).row (Fin.last t.size) = a.row := by
  have hstop : (t.add a).stop (Fin.last t.size) = t.headers.size + a.headers.toArray.size := by
    show (t.starts.push t.headers.size)[t.size + 1]?.getD (t.headers ++ a.headers.toArray).size = _
    rw [Vector.getElem?_eq_none (Nat.le_refl _), Option.getD_none, Array.size_append]
  have hheaders : ((t.headers ++ a.headers.toArray).extract
      (t.starts.push t.headers.size)[t.size] ((t.add a).stop (Fin.last t.size))).toList =
        a.headers := by
    rw [hstop, Vector.getElem_push_eq, Array.extract_append_right, Array.extract_size]
  show Row.mk (t.node.push a.node)[t.size] (t.variant.push a.variant)[t.size]
    (t.config.push a.config)[t.size] (t.call.push a.call)[t.size] _ = a.row
  rw [Vector.getElem_push_eq, Vector.getElem_push_eq, Vector.getElem_push_eq,
    Vector.getElem_push_eq]
  exact congrArg _ hheaders

/-- **A new row comes behind the others**, which stay as they are. -/
theorem rows_add : (t.add a).rows = t.rows ++ [a.row] := by
  have hsplit : (t.add a).rows = List.ofFn (fun i => (t.add a).row i.castSucc) ++
      [(t.add a).row (Fin.last t.size)] := List.ofFn_succ_last
  simp only [hsplit, row_add_castSucc, row_add_last]
  rfl

theorem rows_foldl (as : List Artifact) :
    (as.foldl add t).rows = t.rows ++ as.map Artifact.row := by
  induction as generalizing t with
  | nil => simp
  | cons a as ih =>
    rw [List.foldl_cons, ih, rows_add, List.append_assoc]
    rfl

end Table

theorem Record.rows_ofCode (r : Result) : (ofCode r).rows = r.parts.map Artifact.row := by
  have hempty : Table.empty.rows = [] := rfl
  rw [rows, ofCode, Table.rows_foldl, hempty, List.nil_append]

/-! ## Headers -/

theorem Family.headers_ne_nil (f : Family) : f.headers ≠ [] := by
  cases f <;> simp [headers]

theorem Family.unbroken (f : Family) : ∀ header ∈ f.headers, '\n' ∉ header.toList := by
  cases f <;> simp [headers]

namespace Compile

variable {t : Target} {canceled : Bool} {g : Graph} {r : Result}

theorem mem_headers_iff (h : (compile t canceled g).result = .ok r) {header : String} :
    header ∈ r.headers ↔ ∃ n ∈ g.nodes, header ∈ n.variant.headers := by
  rw [headers_eq_firstSeen h, mem_firstSeen, List.mem_flatMap]
  have hcode := forall₂_codeOf h
  constructor
  · rintro ⟨a, ha, hheader⟩
    obtain ⟨n, hn, hna⟩ := exists_of_mem_right hcode ha
    rw [Artifact.headers, hna.headers] at hheader
    exact ⟨n, hn, hheader⟩
  · rintro ⟨n, hn, hheader⟩
    obtain ⟨a, ha, hna⟩ := exists_of_mem_right hcode.flip hn
    refine ⟨a, ha, ?_⟩
    rw [Artifact.headers, hna.headers]
    exact hheader

end Compile

/-! ## Reading a manifest -/

/-- The lines of a text. -/
def Text.lines (s : String) : List String := (s.split '\n').toList.map String.Slice.copy

/-- The code of a node, read from its row. -/
def Row.artifact (row : Row) : Artifact :=
  ⟨row.node, row.variant, row.config, row.call, some row.includes⟩

namespace Record

/-- What the metadata have under a key. -/
def value (m : Record) (key : String) : String := (m.metadata.lookup key).getD ""

/-- The result that is read from a record. -/
def result (m : Record) : Result where
  graph := m.value "graph"
  backend := m.value "backend"
  artifacts := some (m.rows.map Row.artifact)
  includes := some (lines (m.value "includes"))

section Read

variable {t : Target} {canceled : Bool} {g : Graph} {r : Result}
  (h : (compile t canceled g).result = .ok r)

include h

/-- The code of every node has a list of headers, so it is read from its row as it is. -/
theorem map_artifact_rows : (ofCode r).rows.map Row.artifact = r.parts := by
  have hsame : ∀ a ∈ r.parts, (Row.artifact ∘ Artifact.row) a = id a := by
    intro a ha
    obtain ⟨n, -, hna⟩ := exists_of_mem_right (Compile.forall₂_codeOf h) ha
    obtain ⟨node, variant, config, call, includes⟩ := a
    obtain rfl : includes = some n.variant.headers := hna.headers
    rfl
  rw [rows_ofCode, List.map_map, List.map_congr_left hsame, List.map_id]

/-- The joined headers are split as they were. -/
theorem lines_intercalate (hg : g.nodes ≠ []) : lines ("\n".intercalate r.headers) = r.headers := by
  obtain ⟨n, hn⟩ := List.exists_mem_of_ne_nil _ hg
  obtain ⟨header, hheader⟩ := List.exists_mem_of_ne_nil _ n.variant.family.headers_ne_nil
  have hmem : header ∈ r.headers := (Compile.mem_headers_iff h).mpr ⟨n, hn, hheader⟩
  have hunbroken : ∀ header ∈ r.headers, '\n' ∉ header.toList := by
    intro header hheader
    obtain ⟨n, -, hn⟩ := (Compile.mem_headers_iff h).mp hheader
    exact n.variant.family.unbroken header hn
  exact (String.toList_split_intercalate hunbroken).trans (if_neg (List.ne_nil_of_mem hmem))

/-- **What is read from a manifest is what it was made of.** -/
theorem result_ofCode (hg : g.nodes ≠ []) : (ofCode r).result = r := by
  have hgraph : (ofCode r).value "graph" = r.graph := rfl
  have hbackend : (ofCode r).value "backend" = r.backend := rfl
  have hincludes : (ofCode r).value "includes" = "\n".intercalate r.headers := rfl
  rw [result, hgraph, hbackend, hincludes, map_artifact_rows h, lines_intercalate h hg]
  obtain ⟨name, artifacts, rfl⟩ := Compile.exists_artifacts h
  rfl

/-- A graph with nodes has code, and the code a manifest. -/
theorem ofResult?_of_compile (hg : g.nodes ≠ []) : ofResult? r = some (ofCode r) := by
  rw [ofResult?]
  split
  · next hnil =>
    have hlength := Compile.length_parts h
    rw [hnil] at hlength
    exact absurd (List.eq_nil_of_length_eq_zero hlength.symm) hg
  · rfl

end Read

theorem ofResult?_eq_none_iff {r : Result} : ofResult? r = none ↔ r.parts = [] := by
  rw [ofResult?]
  split <;> simp_all

/-- **A manifest determines its result.** Generated code for a graph with nodes has a manifest, and
can be read back from it: the rows are the code of the nodes in order, each with its whole list of
headers, and the metadata give the names of the graph and the target and, line by line, the headers
of the graph. So code with the same manifest is the same. Only a result without code for any node
has no manifest. -/
theorem determines_result :
    (∀ (t : Target) (canceled : Bool) (g : Graph) (r : Result),
      (compile t canceled g).result = .ok r → g.nodes ≠ [] →
        ∃ m, ofResult? r = some m ∧ m.rows.map Row.artifact = r.parts ∧
          m.metadata.lookup "graph" = some r.graph ∧
          m.metadata.lookup "backend" = some r.backend ∧
          (∃ text, m.metadata.lookup "includes" = some text ∧ lines text = r.headers) ∧
          m.result = r) ∧
    (∀ (t t' : Target) (canceled canceled' : Bool) (g g' : Graph) (r r' : Result),
      (compile t canceled g).result = .ok r → (compile t' canceled' g').result = .ok r' →
        g.nodes ≠ [] → g'.nodes ≠ [] → ofResult? r = ofResult? r' → r = r') ∧
    ∀ r : Result, ofResult? r = none ↔ r.parts = [] := by
  refine ⟨fun t canceled g r h hg => ?_, ?_, fun r => ofResult?_eq_none_iff⟩
  · exact ⟨ofCode r, ofResult?_of_compile h hg, map_artifact_rows h, rfl, rfl,
      ⟨_, rfl, lines_intercalate h hg⟩, result_ofCode h hg⟩
  · intro t t' canceled canceled' g g' r r' h h' hg hg' hsame
    rw [ofResult?_of_compile h hg, ofResult?_of_compile h' hg', Option.some.injEq] at hsame
    rw [← result_ofCode h hg, hsame, result_ofCode h' hg']

/-- A separable convolution between two dense layers, in a graph with a line break in its name. -/
def layeredGraph : Graph :=
  ⟨"two\nlines", [("fc", Graph.denseLayer "resource"),
    ("sep", Resource.separableLayer [1, 2, 1]), ("fc2", Compile.secondLayer)]⟩

/-- The convolution needs two headers and each dense layer one. The code for either target is read
from its manifest, and the manifests differ, since the code does. -/
theorem determines_result_layered :
    layeredGraph.nodes ≠ [] ∧ ∃ r r', (compile .vivado false layeredGraph).result = .ok r ∧
      (compile .quartus false layeredGraph).result = .ok r' ∧
      (∃ m, ofResult? r = some m ∧ m.rows.map Row.artifact = r.parts ∧ m.result = r ∧
        m.table.starts.toList = [0, 1, 3] ∧ m.table.headers.toList =
          ["nnet_utils/nnet_dense.h", "nnet_utils/nnet_sepconv1d.h", "nnet_utils/nnet_conv1d.h",
            "nnet_utils/nnet_dense.h"]) ∧
      ofResult? r ≠ ofResult? r' ∧ ofResult? {} = none := by
  have hg : layeredGraph.nodes ≠ [] := by simp [layeredGraph, Graph.nodes]
  have hvivado : (compile .vivado false layeredGraph).result.isOk = true := by decide +kernel
  have hquartus : (compile .quartus false layeredGraph).result.isOk = true := by decide +kernel
  obtain ⟨r, hr⟩ := exists_of_isOk hvivado
  obtain ⟨r', hr'⟩ := exists_of_isOk hquartus
  obtain ⟨m, hm, hrows, -, -, -, hresult⟩ := determines_result.1 _ _ _ _ hr hg
  have htable : ((compile .vivado false layeredGraph).result.toOption.bind ofResult?).map
      (fun m => (m.table.starts.toList, m.table.headers.toList)) = some ([0, 1, 3],
        ["nnet_utils/nnet_dense.h", "nnet_utils/nnet_sepconv1d.h", "nnet_utils/nnet_conv1d.h",
          "nnet_utils/nnet_dense.h"]) := by
    decide +kernel
  have hbackends : ((compile .vivado false layeredGraph).result.toOption.map Result.backend) ≠
      (compile .quartus false layeredGraph).result.toOption.map Result.backend := by
    decide +kernel
  rw [hr] at htable
  rw [hr, hr'] at hbackends
  rw [Except.toOption, Option.bind_some, hm, Option.map_some, Option.some.injEq,
    Prod.mk.injEq] at htable
  refine ⟨hg, r, r', hr, hr', ⟨m, hm, hrows, hresult, htable⟩, fun hsame => ?_,
    (determines_result.2.2 {}).mpr rfl⟩
  obtain rfl := determines_result.2.1 _ _ _ _ _ _ _ _ hr hr' hg hg hsame
  exact hbackends rfl

end Record

end LayerCode
