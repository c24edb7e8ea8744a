/-!
# Natural numbers in decimal

Reading of unsigned numbers of sixty-four bits, as arguments and settings give them.

## Main definitions

- `digitsValue?`: the number that a list of decimal digits stands for.
- `parseUnsigned?`: an optional plus sign and digits, at most `2 ^ 64 - 1`.
-/

namespace Columnar.Text

def maxUnsigned : Nat := 0xffffffffffffffff

def digitsValue? (acc : Nat) : List Char → Option Nat
  | [] => some acc
  | c :: cs => if c.isDigit then digitsValue? (acc * 10 + (c.toNat - '0'.toNat)) cs else none

/-- An unsigned number of sixty-four bits: a plus sign if any, then at least one digit. -/
def parseUnsigned? (text : String) : Option Nat :=
  let digits :=
    match text.toList with
    | '+' :: rest => rest
    | cs => cs
  if digits.isEmpty then none
  else (digitsValue? 0 digits).filter fun n => decide (n ≤ maxUnsigned)

end Columnar.Text
