import Columnar.Json.Value

/-!
# JSON texts

A value is written without blanks, or spread over lines with two spaces for each level. Of the
characters of a string only the quote, the backslash and the control characters below the space are
escaped.

## Main definitions

- `Value.compact`: the text without blanks.
- `Value.pretty`: the text over several lines.
-/

namespace Columnar.Json

/-! ## Strings and numbers -/

def hexDigit (n : Nat) : Char := (Nat.toDigits 16 n).headD '0'

def escapeChar (c : Char) : List Char :=
  match c with
  | '"' => ['\\', '"']
  | '\\' => ['\\', '\\']
  | '\n' => ['\\', 'n']
  | '\r' => ['\\', 'r']
  | '\t' => ['\\', 't']
  | c =>
    if c.toNat = 0x08 then ['\\', 'b']
    else if c.toNat = 0x0c then ['\\', 'f']
    else if c.toNat < 0x20 then
      ['\\', 'u', '0', '0', hexDigit (c.toNat / 16), hexDigit (c.toNat % 16)]
    else [c]

def quote (s : String) : String := String.ofList ('"' :: (s.toList.flatMap escapeChar ++ ['"']))

/-- A number: an integer in decimal, any other in its shortest form. -/
def Number.write : Number → String
  | .int i => toString i
  | .real x _ => x.write .json

namespace Value

/-! ## Without blanks -/

mutual

def compact : Value → String
  | .null => "null"
  | .bool true => "true"
  | .bool false => "false"
  | .number n => n.write
  | .string s => quote s
  | .array items => "[" ++ String.intercalate "," (compactItems items) ++ "]"
  | .object entries => "\x7b" ++ String.intercalate "," (compactEntries entries) ++ "\x7d"

def compactItems : List Value → List String
  | [] => []
  | v :: vs => compact v :: compactItems vs

def compactEntries : List (String × Value) → List String
  | [] => []
  | (key, v) :: rest => (quote key ++ ":" ++ compact v) :: compactEntries rest

end

/-! ## Over several lines -/

def indentation (level : Nat) : String := String.ofList (List.replicate (2 * level) ' ')

/-- Lines between an opening and a closing bracket, or the two brackets alone if there is none. -/
def bracketed (level : Nat) (opening closing : String) (lines : List String) : String :=
  if lines.isEmpty then opening ++ closing
  else
    let inner := lines.map (indentation (level + 1) ++ ·)
    opening ++ "\n" ++ String.intercalate ",\n" inner ++ "\n" ++ indentation level ++ closing

mutual

def prettyAt (level : Nat) : Value → String
  | .array items => bracketed level "[" "]" (prettyItems (level + 1) items)
  | .object entries => bracketed level "\x7b" "\x7d" (prettyEntries (level + 1) entries)
  | .null => "null"
  | .bool true => "true"
  | .bool false => "false"
  | .number n => n.write
  | .string s => quote s

def prettyItems (level : Nat) : List Value → List String
  | [] => []
  | v :: vs => prettyAt level v :: prettyItems level vs

def prettyEntries (level : Nat) : List (String × Value) → List String
  | [] => []
  | (key, v) :: rest => (quote key ++ ": " ++ prettyAt level v) :: prettyEntries level rest

end

def pretty (v : Value) : String := prettyAt 0 v

end Value

end Columnar.Json
