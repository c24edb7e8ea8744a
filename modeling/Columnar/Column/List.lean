import Columnar.Column.Basic
import Columnar.Record.Basic
import Columnar.Report.Diagnostic

/-!
# Column lists

The column form of a record: the column of the indicator and one for each field that is set, all
with the same number of rows.

## Main definitions

- `ColumnList`: columns in order.
- `ColumnList.ofRecordBy`, `ColumnList.ofRecord`: the columns of a record, with rows of given
  lengths or with one value in each row.
- `ColumnList.repartition`: splitting all columns anew.
- `ColumnList.note?`: what the log says of the columns of a record.
-/

namespace Columnar

structure ColumnList where
  columns : List Column
deriving DecidableEq

namespace ColumnList

/-! ## Reading -/

def length (l : ColumnList) : Nat := l.columns.length

def isEmpty (l : ColumnList) : Bool := l.columns.isEmpty

/-- Number of rows of the first column; none for an empty list. -/
def numRows (l : ColumnList) : Nat :=
  match l.columns with
  | [] => 0
  | c :: _ => c.numRows

def descriptors (l : ColumnList) : List Descriptor := l.columns.map Column.descriptor

def get? (l : ColumnList) (d : Descriptor) : Option Column :=
  l.columns.find? fun c => c.descriptor == d

def field? (l : ColumnList) (field : String) : Option Column :=
  l.columns.find? fun c => c.descriptor.field == some field

/-! ## Building -/

/-- The columns of a record with rows of given lengths; none if all fields are unset. -/
def ofRecordBy (r : Record) (lengths : List Nat) : Except Error ColumnList :=
  match r.setBatches with
  | [] => .ok ⟨[]⟩
  | batches => do
    let columns ← batches.mapM fun b => b.partition lengths
    .ok ⟨.indicator r.archetype.indicatorDescriptor lengths.length :: columns⟩

/-- Number of rows of the default column form: the length of the first batch with values. -/
def defaultRows (r : Record) : Nat :=
  ((r.setBatches.map Batch.length).find? fun n => 0 < n).getD 0

def ofRecord (r : Record) : Except Error ColumnList :=
  ofRecordBy r (List.replicate (defaultRows r) 1)

def repartition (l : ColumnList) (lengths : List Nat) : Except Error ColumnList := do
  let columns ← l.columns.mapM fun c => c.repartition lengths
  .ok ⟨columns⟩

/-! ## The log -/

def note? (r : Record) (l : ColumnList) : Option LogRecord :=
  if l.isEmpty then none
  else
    some ⟨.debug, "arche_bundle::column_list",
      r.archetype.shortName ++ ": partitioned " ++ toString l.length ++ " columns into "
        ++ toString l.numRows ++ " rows"⟩

def noted (r : Record) (answer : Except Error ColumnList) :
    Reporting (Except Error ColumnList) := do
  match answer with
  | .ok l =>
    match note? r l with
    | some note => modify (Journal.log · note)
    | none => pure ()
  | .error _ => pure ()
  pure answer

end ColumnList

end Columnar
