import Columnar.Record.Archetype
import Columnar.Record.FieldState
import Columnar.Record.Patch

/-!
# Records

A record of an archetype has a state for each of the archetype's fields. Records do not change:
clearing and patching give new ones.

## Main definitions

- `Record`: an archetype and the states of its fields in order.
- `Record.unset`, `Record.cleared`: all fields in one state.
- `Record.apply`: entries taken into account one after the other; the first at fault decides.
- `Record.tryFromFields`, `Record.tryConstruct`, `Record.tryPatch`: the ways to apply entries.
- `Record.setBatches`, `Record.rowForm`: the batches of a record.
- `Record.same`: two records say the same.
-/

namespace Columnar

structure Record where
  archetype : Archetype
  states : List FieldState
deriving DecidableEq

namespace Record

/-! ## Reading -/

def state? (r : Record) (field : String) : Option FieldState :=
  match r.archetype.fieldIndex? field with
  | some i => r.states[i.val]?
  | none => none

def batch? (r : Record) (field : String) : Option Batch := (r.state? field).bind FieldState.batch?

def isUnset (r : Record) : Bool := r.states.all FieldState.isUnset

def setBatches (r : Record) : List Batch := r.states.filterMap FieldState.batch?

def rowForm (r : Record) : List Batch := r.archetype.indicatorBatch :: r.setBatches

/-- Length of the longest batch. -/
def numInstances (r : Record) : Nat := ((r.setBatches.map Batch.length).max?).getD 0

def sameStates : List FieldState → List FieldState → Bool
  | [], [] => true
  | a :: as, b :: bs => a.same b && sameStates as bs
  | _, _ => false

/-- Whether two records are of archetypes with one name and have states that say the same. -/
def same (a b : Record) : Bool :=
  a.archetype.name == b.archetype.name && sameStates a.states b.states

theorem sameStates_self (states : List FieldState) : sameStates states states = true := by
  induction states with
  | nil => rfl
  | cons s states ih => simp [sameStates, FieldState.same_self, ih]

theorem same_self (r : Record) : r.same r = true := by simp [same, sameStates_self]

/-! ## Building -/

def unset (a : Archetype) : Record := ⟨a, a.fields.map fun _ => .unset⟩

def cleared (a : Archetype) : Record := ⟨a, a.fields.map fun f => .cleared (a.emptyBatch f)⟩

def convertField (a : Archetype) (f : FieldSpec) (input : Input) : Except Error FieldState :=
  match f.component.convert input with
  | .ok s => .ok (.ofBatch ⟨a.descriptor f, s⟩)
  | .error e => .error (.inField a.shortName f.name e)

def stateWithout (a : Archetype) (f : FieldSpec) (clearUnset : Bool) : FieldState :=
  if clearUnset then .cleared (a.emptyBatch f) else .unset

def stateOf (a : Archetype) (f : FieldSpec) (clearUnset : Bool) :
    Option Input → Except Error FieldState
  | some input => convertField a f input
  | none => .ok (stateWithout a f clearUnset)

def assign (clearUnset : Bool) (r : Record) (e : Entry) : Except Error Record :=
  match r.archetype.fieldIndex? e.field with
  | none => .error (.unknownField r.archetype.shortName e.field)
  | some i => do
    let state ← stateOf r.archetype r.archetype.fields[i] clearUnset e.value
    .ok { r with states := r.states.set i.val state }

/-- Takes entries into account one after the other; the first that is at fault decides. -/
def apply (r : Record) (entries : List Entry) (clearUnset : Bool) : Except Error Record :=
  entries.foldlM (assign clearUnset) r

/-- The record from which entries start that leave the other fields cleared or unset. -/
def initial (a : Archetype) (clearUnset : Bool) : Record :=
  if clearUnset then cleared a else unset a

def entriesOf (fields : List (String × Input)) : List Entry :=
  fields.map fun p => ⟨p.1, some p.2⟩

def tryFromFields (a : Archetype) (clearUnset : Bool) (fields : List (String × Input)) :
    Except Error Record :=
  (initial a clearUnset).apply (entriesOf fields) clearUnset

def tryConstruct (a : Archetype) (fields : List (String × Input)) : Except Error Record :=
  tryFromFields a false fields

def tryPatch (r : Record) (p : Patch) : Except Error Record := r.apply p.entries p.clearUnset

end Record

end Columnar
