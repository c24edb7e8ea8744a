/-!
# Blanks

Text is trimmed of every character with the Unicode property of white space, which has more members
than the ASCII class of the same name.

## Main definitions

- `isBlank`: the character is white space.
- `trim`: a text without white space at its ends.
-/

namespace Columnar.Text

/-- Whether a character is white space: tabulations and line ends, the spaces of all widths, and the
line and paragraph separators. -/
def isBlank (c : Char) : Bool :=
  let n := c.toNat
  (decide (0x09 ≤ n) && decide (n ≤ 0x0d)) || n == 0x20 || n == 0x85 || n == 0xa0 || n == 0x1680
    || (decide (0x2000 ≤ n) && decide (n ≤ 0x200a)) || n == 0x2028 || n == 0x2029 || n == 0x202f
    || n == 0x205f || n == 0x3000

def trimChars (cs : List Char) : List Char :=
  (((cs.dropWhile isBlank).reverse).dropWhile isBlank).reverse

def trim (text : String) : String := String.ofList (trimChars text.toList)

end Columnar.Text
