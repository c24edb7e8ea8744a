import Columnar.Column.List
import Columnar.Record.Construct

/-!
# Records of a fixed archetype

Where the archetype is known beforehand, the values of its fields are given as a structure with an
optional value for each field, and no field can be misnamed.

## Main definitions

- `FieldValues`: structures of optional values for the fields of an archetype.
- `Typed`: a record of the archetype of such a structure.
- `Typed.tryConstruct`, `Typed.construct`, `Typed.fromFields`, `Typed.patch`: building such records.
- `Typed.columns`, `Typed.columnsBy`: their column forms.
-/

namespace Columnar

/-- A structure with an optional value for each field of an archetype. -/
class FieldValues (V : Type) where
  archetype : Archetype
  entries : V → List (String × Option Input)

/-- A record of the archetype that a structure has the fields of. -/
structure Typed (V : Type) where
  record : Record

namespace Typed

variable {V : Type} [FieldValues V]

def given (values : V) : List (String × Input) :=
  (FieldValues.entries values).filterMap fun p => p.2.map fun input => (p.1, input)

def tryConstruct (values : V) : Except Error (Typed V) :=
  (Record.tryConstruct (FieldValues.archetype V) (given values)).map Typed.mk

def fromFields (clearUnset : Bool) (values : V) (d : Diagnostics) : Reporting (Typed V) := do
  let r ← Record.fromFields (FieldValues.archetype V) clearUnset (given values) d
  pure ⟨r⟩

def construct (values : V) (d : Diagnostics) : Reporting (Typed V) := fromFields false values d

def unset : Typed V := ⟨Record.unset (FieldValues.archetype V)⟩

def cleared : Typed V := ⟨Record.cleared (FieldValues.archetype V)⟩

def patch (t : Typed V) (p : Patch) (d : Diagnostics) : Reporting (Typed V) := do
  let r ← t.record.patch p d
  pure ⟨r⟩

def columns (t : Typed V) : Reporting (Except Error ColumnList) :=
  ColumnList.noted t.record (ColumnList.ofRecord t.record)

def columnsBy (t : Typed V) (lengths : List Nat) : Reporting (Except Error ColumnList) :=
  ColumnList.noted t.record (ColumnList.ofRecordBy t.record lengths)

end Typed

end Columnar
