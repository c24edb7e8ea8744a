/-!
# Splitting

## Main definitions

- `splitOn`: the parts of a text between the occurrences of a character; there is always one.
- `padRight`: a text filled up with spaces to a number of characters.
-/

namespace Columnar.Text

def splitOn (separator : Char) : List Char → List (List Char)
  | [] => [[]]
  | c :: cs =>
    if c = separator then [] :: splitOn separator cs
    else
      match splitOn separator cs with
      | [] => [[c]]
      | part :: parts => (c :: part) :: parts

def padRight (size : Nat) (text : String) : String :=
  text ++ String.ofList (List.replicate (size - text.length) ' ')

end Columnar.Text
