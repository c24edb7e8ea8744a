import Columnar.Record.Batch

/-!
# Field states

A field of a record that was never set is not the same as one that was cleared: the former is no
part of the record at all, the latter has an empty batch, which erases what was stored before.

## Main definitions

- `FieldState`: unset, cleared or present.
- `FieldState.ofBatch`: the state that a batch gives.
- `FieldState.batch?`: the batch of a field that is set.
- `FieldState.same`: two states say the same.
-/

namespace Columnar

inductive FieldState where
  | unset
  | cleared (batch : Batch)
  | present (batch : Batch)
deriving DecidableEq

namespace FieldState

/-- A batch without values clears the field. -/
def ofBatch (b : Batch) : FieldState := if b.isEmpty then .cleared b else .present b

def batch? : FieldState → Option Batch
  | .unset => none
  | .cleared b => some b
  | .present b => some b

def isUnset : FieldState → Bool
  | .unset => true
  | _ => false

def same : FieldState → FieldState → Bool
  | .unset, .unset => true
  | .cleared a, .cleared b => a.same b
  | .present a, .present b => a.same b
  | _, _ => false

theorem same_self (s : FieldState) : s.same s = true := by
  cases s <;> simp [same, Batch.same_self]

@[simp] theorem batch?_ofBatch (b : Batch) : (ofBatch b).batch? = some b := by
  unfold ofBatch; split <;> rfl

end FieldState

end Columnar
