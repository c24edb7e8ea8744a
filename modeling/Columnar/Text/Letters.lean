/-!
# Letters

Names are compared without regard to the case of ASCII letters; all other characters must be the
same.

## Main definitions

- `sameLetters`: two texts are equal but for case.
-/

namespace Columnar.Text

def foldCase (text : String) : List Char := text.toList.map Char.toLower

def sameLetters (a b : String) : Bool := foldCase a == foldCase b

end Columnar.Text
