import LayerCode.Result

/-!
# Manifests

The code of a graph is handed on as a record with one row for every node. A record is kept by
columns. The headers of all rows are in one array, next to a column that tells where those of each
row start. The names of the graph and the target and the headers of the graph go with the schema.
There is no record of a graph without nodes.

* `Table`, `Table.add`: columns of one length, which grow row by row;
* `Row`, `Table.row`, `Table.rows`: the cells of a row, read from the columns;
* `Record`, `Record.columns`, `Record.rows`;
* `Record.ofCode`, `Record.ofResult?`: the manifest of a result.
-/

namespace LayerCode

/-- The types of columns. -/
inductive ColumnType where
  | utf8
  | list
deriving DecidableEq, Repr

/-- The name of a column type. -/
def ColumnType.name : ColumnType → String
  | .utf8 => "utf8"
  | .list => "list"

/-- A column of a record. -/
structure Column where
  name : String
  type : ColumnType
  nullable : Bool
deriving DecidableEq, Repr

/-- The row of a node. -/
structure Row where
  node : String
  variant : String
  config : String
  call : String
  includes : List String
deriving DecidableEq, Repr

/-- Columns of one length. The headers of a row go from its start to the start of the next row, and
those of the last row to the end. -/
structure Table where
  size : Nat
  node : Vector String size
  variant : Vector String size
  config : Vector String size
  call : Vector String size
  /-- Where the headers of each row start. -/
  starts : Vector Nat size
  /-- The headers of all rows. -/
  headers : Array String
  starts_le : ∀ start ∈ starts, start ≤ headers.size
deriving DecidableEq, Repr

namespace Table

/-- The table without rows. -/
def empty : Table := ⟨0, #v[], #v[], #v[], #v[], #v[], #[], by simp⟩

/-- The table with a row for the code of a node behind the others. -/
def add (t : Table) (a : Artifact) : Table where
  size := t.size + 1
  node := t.node.push a.node
  variant := t.variant.push a.variant
  config := t.config.push a.config
  call := t.call.push a.call
  starts := t.starts.push t.headers.size
  headers := t.headers ++ a.headers.toArray
  starts_le start h := by
    rw [Array.size_append]
    rcases Vector.mem_push.mp h with h | rfl
    · exact Nat.le_add_right_of_le (t.starts_le start h)
    · exact Nat.le_add_right _ _

/-- Where the headers of a row end. -/
def stop (t : Table) (i : Fin t.size) : Nat := t.starts[i.val + 1]?.getD t.headers.size

/-- The cells of a row. -/
def row (t : Table) (i : Fin t.size) : Row :=
  ⟨t.node[i], t.variant[i], t.config[i], t.call[i],
    (t.headers.extract t.starts[i] (t.stop i)).toList⟩

/-- The rows in order. -/
def rows (t : Table) : List Row := List.ofFn t.row

end Table

/-- A table with one row for every node, and the metadata of its schema. -/
structure Record where
  metadata : List (String × String)
  table : Table
deriving DecidableEq, Repr

namespace Record

/-- The columns of every record. -/
def columns : List Column :=
  [⟨"node", .utf8, false⟩, ⟨"variant", .utf8, false⟩, ⟨"config", .utf8, false⟩,
   ⟨"call", .utf8, false⟩, ⟨"includes", .list, false⟩]

/-- The rows of a record. -/
def rows (r : Record) : List Row := r.table.rows

/-- The record of the code of all nodes. -/
def ofCode (r : Result) : Record where
  metadata :=
    [("graph", r.graph), ("backend", r.backend), ("includes", "\n".intercalate r.headers)]
  table := r.parts.foldl Table.add Table.empty

/-- The manifest of a result; none when there is no code. -/
def ofResult? (r : Result) : Option Record :=
  match r.parts with
  | [] => none
  | _ => some (ofCode r)

end Record

end LayerCode
