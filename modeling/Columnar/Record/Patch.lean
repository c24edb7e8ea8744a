import Columnar.Component.Input

/-!
# Patches

A patch names fields of a record and gives each of them a value or none. Fields that it does not
name stay as they are.

## Main definitions

- `Entry`: a field with the value that it is given, if any.
- `Patch`: entries with different names, and what becomes of fields without a value.
- `Patch.set`, `Patch.reset`, `Patch.clearingUnset`: building a patch step by step.
-/

namespace Columnar

structure Entry where
  field : String
  value : Option Input

structure Patch where
  entries : List Entry
  /-- Whether fields that are named without a value become cleared rather than unset. -/
  clearUnset : Bool

namespace Patch

def blank : Patch := ⟨[], false⟩

/-- Adds an entry at the end, in place of an earlier one for the same field. -/
def add (p : Patch) (field : String) (value : Option Input) : Patch :=
  { p with entries := p.entries.filter (fun e => e.field != field) ++ [⟨field, value⟩] }

def set (p : Patch) (field : String) (value : Input) : Patch := p.add field (some value)

/-- Names a field without giving it a value. -/
def reset (p : Patch) (field : String) : Patch := p.add field none

def clearingUnset (p : Patch) (clearUnset : Bool) : Patch := { p with clearUnset := clearUnset }

def isEmpty (p : Patch) : Bool := p.entries.isEmpty

end Patch

end Columnar
