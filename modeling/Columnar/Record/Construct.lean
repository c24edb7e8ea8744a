import Columnar.Record.Basic
import Columnar.Report.Settings

/-!
# Construction that always succeeds

Where values come from a program that must go on, a record is built in any case: if an entry is at
fault, the fault is reported and the record is unset.

## Main definitions

- `Record.recover`: the record of an attempt, or a report and the unset record.
- `Record.fromFields`, `Record.construct`, `Record.patch`: the attempts of the same kind, recovered.
-/

namespace Columnar.Record

/-- The value of the first entry for the field that an error names. -/
def valueAtFault (entries : List Entry) (e : Error) : Option Input := do
  let field ← e.fieldName?
  let entry ← entries.find? fun entry => entry.field == field
  entry.value

/-- The record of a successful attempt; otherwise the fault is reported and the record is unset. -/
def recover (a : Archetype) (entries : List Entry) (d : Diagnostics) :
    Except Error Record → Reporting Record
  | .ok r => pure r
  | .error e => do
    d.report a.shortName e (valueAtFault entries e)
    pure (unset a)

def fromFields (a : Archetype) (clearUnset : Bool) (fields : List (String × Input))
    (d : Diagnostics) : Reporting Record :=
  recover a (entriesOf fields) d (tryFromFields a clearUnset fields)

def construct (a : Archetype) (fields : List (String × Input)) (d : Diagnostics) :
    Reporting Record :=
  fromFields a false fields d

def patch (r : Record) (p : Patch) (d : Diagnostics) : Reporting Record :=
  recover r.archetype p.entries d (r.tryPatch p)

end Columnar.Record
