import Columnar.Column.List
import Columnar.Ingest.Index

/-!
# Chunks

A chunk brings the columns of one entity together with the indexes of their rows. Timelines are
different from each other, and every index has a value for each row.

## Main definitions

- `Chunk`: entity path, indexes and columns.
- `Chunk.make`: the chunk, or the first thing that is wrong with it.
-/

namespace Columnar

structure Chunk where
  entityPath : String
  indexes : List Index
  columns : ColumnList
deriving DecidableEq

namespace Chunk

def numRows (c : Chunk) : Nat := c.columns.numRows

def checkIndex (rows : Nat) (before : List Index) (i : Index) : Except Error Unit :=
  if before.any fun other => other.timeline == i.timeline then
    .error (.invalidArgument "indexes" ("duplicate timeline '" ++ i.timeline ++ "'"))
  else if i.length ≠ rows then
    .error (.lengthMismatch ("index '" ++ i.timeline ++ "'") rows i.length)
  else .ok ()

/-- What is wrong with the first index at fault, where others stand before the list. -/
def checkIndexes (rows : Nat) (before : List Index) : List Index → Except Error Unit
  | [] => .ok ()
  | i :: rest => do
    checkIndex rows before i
    checkIndexes rows (before ++ [i]) rest

def make (entityPath : String) (indexes : List Index) (columns : ColumnList) :
    Except Error Chunk := do
  Error.verifyArgument (!entityPath.isEmpty) "entity_path" "!entity_path.is_empty()"
  checkIndexes columns.numRows [] indexes
  .ok ⟨entityPath, indexes, columns⟩

end Chunk

end Columnar
