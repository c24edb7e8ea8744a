/-!
# Errors

What may go wrong when records are built, split into rows and brought together with indexes. An
error raised for one field of an archetype is wrapped with the names of both.

## Main definitions

- `Error`: the errors, by cause.
- `Error.message`: the text of an error.
- `Error.fieldName?`: the field that an error was raised for.
- `Error.isConversion`: the error lies in the input of a field.
- `Error.chain`: the texts of the causes of an error, nearest first.
-/

namespace Columnar

inductive Error where
  | invalidArgument (name message : String)
  | invalidOperation (name : String)
  /-- Input that does not convert to a component, or to the encoding of one. -/
  | conversion (component message : String)
  | inField (archetype field : String) (source : Error)
  | unknownField (archetype field : String)
  | lengthMismatch (column : String) (expected actual : Nat)
  /-- Rows that do not make up a column, or columns no table, with the causes, nearest first. -/
  | rendering (context : String) (causes : List String)
deriving DecidableEq, Repr, Inhabited

namespace Error

def message : Error → String
  | .invalidArgument name message => "invalid argument " ++ name ++ ": " ++ message
  | .invalidOperation name => "invalid operation " ++ name
  | .conversion component message => "cannot convert input to " ++ component ++ ": " ++ message
  | .inField archetype field source => archetype ++ "." ++ field ++ ": " ++ source.message
  | .unknownField archetype field => archetype ++ " has no field named '" ++ field ++ "'"
  | .lengthMismatch column expected actual =>
    "length mismatch for '" ++ column ++ "': expected " ++ toString expected ++ ", got "
      ++ toString actual
  | .rendering context _ => "Arrow error: " ++ context

/-- The field that an error was raised for, the outermost one if there are several. -/
def fieldName? : Error → Option String
  | .inField _ field _ => some field
  | .unknownField _ field => some field
  | _ => none

/-- Whether an error lies in the input of a field: a value that does not convert or a field that
does not exist. -/
def isConversion : Error → Bool
  | .conversion _ _ => true
  | .unknownField _ _ => true
  | .inField _ _ source => source.isConversion
  | _ => false

/-- The texts of the causes of an error, nearest first. -/
def chain : Error → List String
  | .inField _ _ source => source.message :: source.chain
  | .rendering _ causes => causes
  | _ => []

def asCauses (e : Error) : List String := e.message :: e.chain

@[simp] theorem isConversion_inField (archetype field : String) (e : Error) :
    (inField archetype field e).isConversion = e.isConversion := rfl

@[simp] theorem chain_inField (archetype field : String) (e : Error) :
    (inField archetype field e).chain = e.asCauses := rfl

/-- A condition on an argument, refused under the argument's name and in the condition's words. -/
def verifyArgument (holds : Bool) (name condition : String) : Except Error Unit :=
  if holds then .ok () else .error (.invalidArgument name condition)

end Error

end Columnar
