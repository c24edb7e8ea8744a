import Columnar.Column.List
import Columnar.Command.Describe
import Columnar.Command.Files
import Columnar.Command.TableText

/-!
# The command `columns`

Builds the column form of an archetype from a file of field values and reports it as text or as
JSON. With a timeline the columns are also brought together with an index, into a table.

## Main definitions

- `readFields`, `readIndex`: the two files.
- `Summary`, `summarize`: what the command reports, and how it comes about.
- `columnsText`: the output of the command.
-/

namespace Columnar.Command

/-! ## Input -/

def readFields (files : Files) (path : String) : Except Failure (List (String × Input)) := do
  match ← readJson files path with
  | .object entries => .ok (entries.map fun p => (p.1, Input.json p.2))
  | _ => .error (.plain ("Expected a JSON object of field values in " ++ path))

def readIndexValue (v : Json.Value) : Except Failure Int64 :=
  let refusal : Failure := .plain ("Index value " ++ v.compact ++ " is not an integer")
  match v.int? with
  | some i =>
    if -0x8000000000000000 ≤ i ∧ i ≤ 0x7fffffffffffffff then .ok (Int64.ofInt i)
    else .error refusal
  | none => .error refusal

def readIndex (files : Files) (path : String) : Except Failure (List Int64) := do
  match ← readJson files path with
  | .array items => items.mapM readIndexValue
  | _ => .error (.plain ("Expected a JSON array of index values in " ++ path))

/-! ## The column form -/

structure Indexed where
  timeline : String
  kind : IndexKind
  values : List Int64
  table : Table

structure Summary where
  archetype : Archetype
  columns : ColumnList
  indexed : Option Indexed

/-- An answer of the library, with what was attempted in case it is an error. -/
def attempt {α : Type} (what : String) (answer : Except Error α) : Except Failure α :=
  answer.mapError (Failure.ofError what)

def columnsOf (r : Record) : Option (List Nat) → Except Error ColumnList
  | some lengths => ColumnList.ofRecordBy r lengths
  | none => ColumnList.ofRecord r

/-- The values of an index: those of a file, or the numbers of the rows. -/
def indexValues (files : Files) (rows : Nat) : Option String → Except Failure (List Int64)
  | some path => readIndex files path
  | none => .ok ((List.range rows).map Int64.ofNat)

def index (files : Files) (o : ColumnsOptions) (columns : ColumnList) (timeline : String) :
    Except Failure Indexed := do
  let values ← indexValues files columns.numRows o.indexFile
  let chunk ← attempt ("Failed to index columns on timeline '" ++ timeline ++ "'")
    (Chunk.make o.entityPath [⟨timeline, o.indexKind, values.map some⟩] columns)
  let table ← chunk.table.mapError Failure.bare
  .ok ⟨timeline, o.indexKind, values, table⟩

def summarize (files : Files) (o : ColumnsOptions) : Except Failure Summary := do
  let archetype ← resolve o.archetype
  let fields ← readFields files o.input
  let record ← attempt ("Invalid field values in " ++ o.input)
    (Record.tryConstruct archetype fields)
  let columns ← attempt ("Failed to partition " ++ archetype.shortName)
    (columnsOf record o.partition)
  match o.timeline with
  | none => .ok ⟨archetype, columns, none⟩
  | some timeline => do
    let indexed ← index files o columns timeline
    .ok ⟨archetype, columns, some indexed⟩

/-! ## Output -/

def columnJson (c : Column) : Json.Value :=
  let field := c.descriptor.field.toList.map fun f => ("field", Json.Value.string f)
  .object
    ([("name", .string c.descriptor.text), ("component", .string c.descriptor.component)] ++ field
      ++ [("value_type", .string c.valueType.text), ("lengths", .array (c.lengths.map .ofNat))])

def indexJson (i : Indexed) : Json.Value :=
  .object
    [("timeline", .string i.timeline), ("kind", .string i.kind.name),
      ("values", .array (i.values.map fun v => .number (.int v.toInt)))]

def Summary.json (s : Summary) : Json.Value :=
  let index := s.indexed.toList.map fun i => ("index", indexJson i)
  .object
    ([("archetype", .string s.archetype.name), ("num_rows", .ofNat s.columns.numRows),
        ("columns", .array (s.columns.columns.map columnJson))] ++ index)

def lengthsText (lengths : List Nat) : String :=
  "[" ++ String.intercalate ", " (lengths.map toString) ++ "]"

def columnLine (c : Column) : String :=
  "  " ++ Text.padRight 64 c.descriptor.text ++ " " ++ Text.padRight 12 c.valueType.text ++ " "
    ++ lengthsText c.lengths

def Summary.lines (s : Summary) : List String :=
  (s.archetype.name ++ ": " ++ toString s.columns.numRows ++ " row(s)")
    :: s.columns.columns.map columnLine
    ++ s.indexed.toList.flatMap fun i => tableLines i.table

def columnsText (files : Files) (o : ColumnsOptions) : Except Failure String := do
  let s ← summarize files o
  .ok (if o.json then s.json.pretty ++ "\n" else unlines s.lines)

end Columnar.Command
