import Columnar.Ingest.Chunk

/-!
# Tables

A table has named columns of one length, with notes on what each of them is. The table of a chunk
has its indexes first and then a list column for each column.

## Main definitions

- `TableColumn`, `Table`: the columns and the table.
- `Table.make`: a table of given columns, if they make one up.
- `Chunk.table`: the table of a chunk.
-/

namespace Columnar

inductive TableCells where
  | integers (values : List (Option Int64))
  | lists (item : DataType) (rows : List Series)
deriving DecidableEq

namespace TableCells

def length : TableCells → Nat
  | .integers values => values.length
  | .lists _ rows => rows.length

def type : TableCells → DataType
  | .integers _ => .int64
  | .lists item _ => .list ⟨"item", item, true⟩

def hasNulls : TableCells → Bool
  | .integers values => values.any Option.isNone
  | .lists _ _ => false

end TableCells

structure TableColumn where
  name : String
  nullable : Bool
  notes : List (String × String)
  cells : TableCells
deriving DecidableEq

structure Table where
  numRows : Nat
  notes : List (String × String)
  columns : List TableColumn
deriving DecidableEq

namespace Table

/-- Why columns make up no table of a number of rows: first a null where there should be none, then
a column of another length. -/
def refusal? (numRows : Nat) (columns : List TableColumn) : Option String :=
  match columns.find? fun c => !c.nullable && c.cells.hasNulls with
  | some c =>
    some ("Invalid argument error: Column '" ++ c.name
      ++ "' is declared as non-nullable but contains null values")
  | none =>
    if columns.any fun c => c.cells.length != numRows then
      some "Invalid argument error: all columns in a record batch must have the specified row count"
    else none

def make (context : String) (numRows : Nat) (notes : List (String × String))
    (columns : List TableColumn) : Except Error Table :=
  match refusal? numRows columns with
  | some cause => .error (.rendering context [cause])
  | none => .ok ⟨numRows, notes, columns⟩

end Table

/-! ## The table of a chunk -/

/-- An index as a column: the kind is noted, and a value is needed in each row. -/
def Index.tableColumn (i : Index) : TableColumn :=
  ⟨i.timeline, false, [("arche.index.kind", i.kind.name)], .integers i.values⟩

/-- The notes from which a descriptor can be read back. -/
def Descriptor.notes (d : Descriptor) : List (String × String) :=
  let archetype := d.archetype.toList.map fun a => ("arche.archetype", a)
  let field := d.field.toList.map fun f => ("arche.field", f)
  archetype ++ ("arche.component", d.component) :: field

def Column.tableColumn (c : Column) : TableColumn :=
  ⟨c.descriptor.text, true, c.descriptor.notes, .lists c.valueType c.rows⟩

def Chunk.table (c : Chunk) : Except Error Table :=
  Table.make ("record batch for " ++ c.entityPath) c.numRows [("arche.entity_path", c.entityPath)]
    (c.indexes.map Index.tableColumn ++ c.columns.columns.map Column.tableColumn)

end Columnar
