import Columnar.Data.Series

/-!
# Vectors

Vectors of three floating-point numbers, as elements of a list type of fixed size.

## Main definitions

- `Vec3`: a vector.
- `Vec3.series`: the series of vectors.
-/

namespace Columnar

structure Vec3 where
  x : Single
  y : Single
  z : Single
deriving DecidableEq, Repr, Inhabited

namespace Vec3

/-- The field of the components, which are never null. -/
def item : Field := ⟨"item", .float32, false⟩

def type : DataType := .fixedSizeList item 3

def cell (v : Vec3) : Cell := .list [.atom (.single v.x), .atom (.single v.y), .atom (.single v.z)]

def series (vs : List Vec3) : Series := Series.ofList type cell vs (by decide) (fun _ => rfl)

end Vec3

end Columnar
