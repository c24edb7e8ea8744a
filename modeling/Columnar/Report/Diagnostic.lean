import Columnar.Component.Input
import Columnar.Error
import Columnar.Report.Level

/-!
# Diagnostics

A rejected value must not stop the program that gave it. It is reported as a diagnostic, which goes
to the log or is collected, and the program goes on.

## Main definitions

- `Diagnostic`: one rejected construction or update.
- `Journal`: what has been collected and logged so far.
- `Diagnostics`: where diagnostics go and how much of a value they show.
- `Diagnostics.report`: reporting an error.
-/

namespace Columnar

structure Diagnostic where
  archetype : String
  field : Option String
  value : Option String
  message : String
deriving DecidableEq, Repr

/-- Archetype, field and value if there are any, and the message. -/
def Diagnostic.text (d : Diagnostic) : String :=
  let field :=
    match d.field with
    | some field => ": field '" ++ field ++ "'"
    | none => ""
  let value :=
    match d.value with
    | some value => " rejected " ++ value
    | none => ""
  d.archetype ++ field ++ value ++ ": " ++ d.message

/-! ## The journal -/

structure LogRecord where
  level : Level
  target : String
  message : String
deriving DecidableEq, Repr

structure Journal where
  collected : List Diagnostic
  logs : List LogRecord
deriving DecidableEq, Repr

namespace Journal

def blank : Journal := ⟨[], []⟩

def collect (j : Journal) (d : Diagnostic) : Journal := { j with collected := j.collected ++ [d] }

def log (j : Journal) (r : LogRecord) : Journal := { j with logs := j.logs ++ [r] }

end Journal

abbrev Reporting := StateM Journal

/-! ## Sinks -/

inductive Sink where
  | log (level : Level)
  | collect
deriving DecidableEq, Repr

def Diagnostic.logRecord (d : Diagnostic) (level : Level) : LogRecord :=
  ⟨level, "arche::diagnostics", d.text⟩

def Sink.accept (s : Sink) (d : Diagnostic) (j : Journal) : Journal :=
  match s with
  | .log level => j.log (d.logRecord level)
  | .collect => j.collect d

structure Diagnostics where
  sink : Sink
  previewLength : Nat
deriving DecidableEq, Repr

def Diagnostics.diagnose (d : Diagnostics) (archetype : String) (e : Error)
    (value : Option Input) : Diagnostic :=
  ⟨archetype, e.fieldName?, value.map (Input.preview d.previewLength), e.message⟩

def Diagnostics.report (d : Diagnostics) (archetype : String) (e : Error)
    (value : Option Input) : Reporting Unit :=
  modify (d.sink.accept (d.diagnose archetype e value))

end Columnar
