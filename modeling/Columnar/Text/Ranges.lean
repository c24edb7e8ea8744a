/-!
# Ranges of characters

Character classes are closed ranges of code points, or tables of such ranges in increasing order.
-/

namespace Columnar.Text

def isBetween (c : Char) (first last : Nat) : Bool :=
  decide (first ≤ c.toNat) && decide (c.toNat ≤ last)

def inRanges (table : Array (Nat × Nat)) (code : Nat) : Bool :=
  table.any fun range => decide (range.1 ≤ code) && decide (code ≤ range.2)

end Columnar.Text
