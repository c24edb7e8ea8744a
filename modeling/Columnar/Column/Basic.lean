import Columnar.Column.Offsets
import Columnar.Error
import Columnar.Record.Batch
import Columnar.Text.Digits

/-!
# Columns

A column is a batch split into consecutive rows. It keeps the values as they are, with the offsets
of the rows; splitting them anew only changes the offsets.

## Main definitions

- `Column`: descriptor, offsets and the values that they point into.
- `Column.row?`, `Column.rows`: the rows.
- `Column.values`: the values of all rows.
- `Batch.partition`: splitting a batch into rows of given lengths.
- `Column.indicator`: the column of an indicator.
- `Column.repartition`: splitting the values of a column anew.
-/

namespace Columnar

structure Column where
  descriptor : Descriptor
  bounds : Offsets
  /-- What the offsets point into. -/
  stored : Series
  /-- No row ends beyond the values. -/
  within : bounds.finish ≤ stored.length
deriving DecidableEq

namespace Column

/-! ## Reading -/

def numRows (c : Column) : Nat := c.bounds.numRows

def offsets (c : Column) : List Nat := c.bounds.places

def lengths (c : Column) : List Nat := c.bounds.lengths

def totalLength (c : Column) : Nat := c.bounds.finish - c.bounds.start

def valueType (c : Column) : DataType := c.stored.type

def values (c : Column) : Series := c.stored.slice c.bounds.start c.totalLength

def row? (c : Column) (i : Nat) : Option Series :=
  match c.offsets[i]?, c.offsets[i + 1]? with
  | some first, some next => some (c.stored.slice first (next - first))
  | _, _ => none

def rows (c : Column) : List Series := (List.range c.numRows).filterMap c.row?

def listType (c : Column) : DataType := .list ⟨"item", c.stored.type, true⟩

/-! ## Splitting -/

/-- The largest number of values in a column, and so the largest offset. -/
def maxValues : Nat := 0x7fffffff

def addUnsigned? (a b : Nat) : Option Nat := if a + b ≤ Text.maxUnsigned then some (a + b) else none

/-- What lengths add up to, unless some sum on the way is beyond sixty-four bits. -/
def checkedTotal (lengths : List Nat) : Except Error Nat :=
  match lengths.foldlM addUnsigned? 0 with
  | some sum => .ok sum
  | none => .error (.invalidArgument "lengths" "partition lengths overflow usize")

def ofOffsets (d : Descriptor) (bounds : Offsets) (values : Series) : Except Error Column :=
  if h : bounds.finish ≤ values.length then .ok ⟨d, bounds, values, h⟩
  else
    .error (.rendering ("partition " ++ d.text)
      ["Invalid argument error: Max offset of " ++ toString bounds.finish
        ++ " exceeds length of values " ++ toString values.length])

def ofLengths (d : Descriptor) (values : Series) (lengths : List Nat) : Except Error Column := do
  let sum ← checkedTotal lengths
  Error.verifyArgument (sum ≤ maxValues) "lengths" "total <= i32::MAX as usize"
  ofOffsets d (.ofLengths lengths) values

/-- The column of an indicator: so many rows without values. -/
def indicator (d : Descriptor) (rows : Nat) : Column where
  descriptor := d
  bounds := .zeros rows
  stored := .nulls 0
  within := by
    rw [← Offsets.ofLengths_replicate_zero, Offsets.finish_ofLengths, total_replicate, Nat.mul_zero]
    exact Nat.zero_le _

end Column

/-- Splits a batch into rows of given lengths, which have to add up to the length of the batch. A
batch without values gives a row without values for each length, whatever it is. -/
def Batch.partition (b : Batch) (lengths : List Nat) : Except Error Column :=
  if b.isEmpty then
    Column.ofLengths b.descriptor b.values (List.replicate lengths.length 0)
  else do
    let sum ← Column.checkedTotal lengths
    if sum ≠ b.length then .error (.lengthMismatch b.descriptor.text sum b.length)
    else Column.ofLengths b.descriptor b.values lengths

namespace Column

def batch (c : Column) : Batch := ⟨c.descriptor, c.values⟩

def repartition (c : Column) (lengths : List Nat) : Except Error Column := c.batch.partition lengths

end Column

end Columnar
