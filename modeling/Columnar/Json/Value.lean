import Columnar.Number.Layout

/-!
# JSON values

A JSON number is an integer or a finite floating-point number: `1` is the former and `1.0` the
latter, and the two are told apart wherever an integer is called for.

## Main definitions

- `Number`, `Value`: JSON numbers and values.
- `Number.toDouble`: the nearest floating-point number.
- `Value.kind`: what a message calls the value.
-/

namespace Columnar.Json

inductive Number where
  | int (i : Int)
  | real (x : Double) (finite : x.isFinite = true)

/-- A JSON value. The entries of an object stand in the order in which they are visited. -/
inductive Value where
  | null
  | bool (b : Bool)
  | number (n : Number)
  | string (s : String)
  | array (items : List Value)
  | object (entries : List (String × Value))

instance : Inhabited Value := ⟨.null⟩

namespace Number

def toDouble : Number → Double
  | .int i => Double.ofInt i
  | .real x _ => x

def int? : Number → Option Int
  | .int i => some i
  | .real _ _ => none

end Number

namespace Value

/-- What a message calls a value of this kind. -/
def kind : Value → String
  | .null => "null"
  | .bool _ => "a boolean"
  | .number _ => "a number"
  | .string _ => "a string"
  | .array _ => "an array"
  | .object _ => "an object"

def isArray : Value → Bool
  | .array _ => true
  | _ => false

def isNumber : Value → Bool
  | .number _ => true
  | _ => false

def int? : Value → Option Int
  | .number n => n.int?
  | _ => none

def entry? (key : String) : Value → Option Value
  | .object entries => entries.lookup key
  | _ => none

def ofNat (n : Nat) : Value := .number (.int n)

def ofString? : Option String → Value
  | none => .null
  | some s => .string s

end Value

end Columnar.Json
