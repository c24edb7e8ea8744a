import Columnar.Error

/-!
# Indexes

An index places the rows of a chunk in time: it has one value for each row, on a named timeline.

## Main definitions

- `IndexKind`: what the values of an index count.
- `IndexKind.name`, `IndexKind.parse`: the written form and reading it.
- `Index`: timeline, kind and values.
-/

namespace Columnar

inductive IndexKind where
  | sequence
  | durationNanos
  | timestampNanos
deriving DecidableEq, Repr

namespace IndexKind

def name : IndexKind → String
  | .sequence => "sequence"
  | .durationNanos => "duration_ns"
  | .timestampNanos => "timestamp_ns"

def all : List IndexKind := [.sequence, .durationNanos, .timestampNanos]

def parse (text : String) : Except Error IndexKind :=
  match all.find? fun k => k.name == text with
  | some k => .ok k
  | none =>
    .error (.invalidArgument "index kind"
      ("expected sequence, duration_ns or timestamp_ns, got '" ++ text ++ "'"))

end IndexKind

/-- One value for each row, on a timeline. A missing value is kept until a table is made. -/
structure Index where
  timeline : String
  kind : IndexKind
  values : List (Option Int64)
deriving DecidableEq

namespace Index

def sequence (timeline : String) (values : List (Option Int64)) : Index :=
  ⟨timeline, .sequence, values⟩

def length (i : Index) : Nat := i.values.length

end Index

end Columnar
