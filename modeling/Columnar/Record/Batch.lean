import Columnar.Component.Descriptor
import Columnar.Data.Content

/-!
# Batches

A batch is a series with a descriptor that says what its values are. A batch without values is
meaningful: it says that there are none.

## Main definitions

- `Batch`: descriptor and values.
- `Batch.empty`, `Batch.indicator`: batches without values.
- `Batch.same`: two batches say the same.
-/

namespace Columnar

structure Batch where
  descriptor : Descriptor
  values : Series
deriving DecidableEq

namespace Batch

def length (b : Batch) : Nat := b.values.length

def isEmpty (b : Batch) : Bool := b.values.isEmpty

def empty (descriptor : Descriptor) (type : DataType) : Batch := ⟨descriptor, .empty type⟩

def indicator (descriptor : Descriptor) : Batch := empty descriptor .null

def same (a b : Batch) : Bool := a.descriptor == b.descriptor && a.values.same b.values

theorem same_self (b : Batch) : b.same b = true := by simp [same, Series.same_self]

end Batch

end Columnar
