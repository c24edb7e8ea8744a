import Columnar.Text.Printable

/-!
# Quoted texts

A text between quotes, for messages: a quote, a backslash and the common control characters are
escaped by a letter, and characters that would not show up, or would change the one before them, by
their code point.

## Main definitions

- `escapeChar`: how one character is written.
- `quoted`: a text between quotes.
-/

namespace Columnar.Text

def escapeChar (c : Char) : List Char :=
  match c with
  | '\x00' => ['\\', '0']
  | '\t' => ['\\', 't']
  | '\r' => ['\\', 'r']
  | '\n' => ['\\', 'n']
  | '\\' => ['\\', '\\']
  | '"' => ['\\', '"']
  | c =>
    if isPrintable c && !isExtender c then [c]
    else '\\' :: 'u' :: '{' :: (Nat.toDigits 16 c.toNat ++ ['}'])

def quoted (text : String) : String :=
  String.ofList ('"' :: (text.toList.flatMap escapeChar ++ ['"']))

end Columnar.Text
