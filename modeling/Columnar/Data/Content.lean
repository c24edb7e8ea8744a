import Columnar.Data.Series

/-!
# Equal content

When two series hold the same. Elements are compared in runs: of a run of texts or of bytes without
nulls only all that it holds together counts, not where one element ends and the next begins. A run
with nulls is compared element by element, so there the ends count.

## Main definitions

- `Cell.sameRuns`: two runs of elements of a type hold the same.
- `Series.same`: two series are of one type and hold the same.
-/

namespace Columnar

def Atom.content : Atom → List UInt8
  | .text s => s.toUTF8.toList
  | .bytes b => b
  | _ => []

namespace Cell

def content (run : List Cell) : List UInt8 := (run.filterMap atom?).flatMap Atom.content

def sameNulls (a b : List Cell) : Bool := a.map isNull == b.map isNull

/-- Whether a relation holds between the elements of two runs one by one, nulls apart. -/
def eachSame (same : Cell → Cell → Bool) : List Cell → List Cell → Bool
  | a :: as, b :: bs => (a.isNull || same a b) && eachSame same as bs
  | _, _ => true

/-- Whether two runs of elements of a primitive type hold the same, given that their nulls are in
the same places. -/
def sameAtoms (p : Primitive) (a b : List Cell) : Bool :=
  match p with
  | .utf8 | .largeUtf8 | .binary | .largeBinary =>
    if a.any isNull then a == b else content a == content b
  | _ => a == b

mutual

def sameRuns (type : DataType) (a b : List Cell) : Bool :=
  sameNulls a b &&
    match type with
    | .primitive p => sameAtoms p a b
    | .list item =>
      if a.any isNull then
        eachSame (fun x y => x.items.length == y.items.length && sameItems item x.items y.items) a b
      else
        a.map (fun x => x.items.length) == b.map (fun y => y.items.length)
          && sameItems item (a.flatMap items) (b.flatMap items)
    | .fixedSizeList item _ =>
      if a.any isNull then eachSame (fun x y => sameItems item x.items y.items) a b
      else sameItems item (a.flatMap items) (b.flatMap items)
    | .struct fields =>
      if a.any isNull then eachSame (fun x y => sameMembers fields [x.members] [y.members]) a b
      else sameMembers fields (a.map members) (b.map members)
    | .dictionary value => eachSame (fun x y => sameRuns value [x.referent] [y.referent]) a b

def sameItems : Field → List Cell → List Cell → Bool
  | ⟨_, type, _⟩, a, b => sameRuns type a b

/-- Whether the members of two runs of records hold the same, each field being a run of its own. -/
def sameMembers : List Field → List (List Cell) → List (List Cell) → Bool
  | [], _, _ => true
  | f :: fields, a, b =>
    sameItems f (a.map fun r => r.headD .null) (b.map fun r => r.headD .null)
      && sameMembers fields (a.map List.tail) (b.map List.tail)

end

theorem sameNulls_self (a : List Cell) : sameNulls a a = true := by simp [sameNulls]

theorem eachSame_self {same : Cell → Cell → Bool} (h : ∀ c, same c c = true) (a : List Cell) :
    eachSame same a a = true := by
  induction a with
  | nil => rfl
  | cons c a ih => simp [eachSame, h, ih]

theorem sameAtoms_self (p : Primitive) (a : List Cell) : sameAtoms p a a = true := by
  unfold sameAtoms
  split <;> simp

mutual

theorem sameRuns_self : (type : DataType) → (a : List Cell) → sameRuns type a a = true
  | .primitive p, a => by simp [sameRuns, sameNulls_self, sameAtoms_self]
  | .list item, a => by
    have h := sameItems_self item
    simp [sameRuns, sameNulls_self, eachSame_self, h]
  | .fixedSizeList item _, a => by
    have h := sameItems_self item
    simp [sameRuns, sameNulls_self, eachSame_self, h]
  | .struct fields, a => by
    have h := sameMembers_self fields
    simp [sameRuns, sameNulls_self, eachSame_self, h]
  | .dictionary value, a => by
    have h := sameRuns_self value
    simp [sameRuns, sameNulls_self, eachSame_self, h]

theorem sameItems_self : (item : Field) → (a : List Cell) → sameItems item a a = true
  | ⟨_, type, _⟩, a => by simpa only [sameItems] using sameRuns_self type a

theorem sameMembers_self : (fields : List Field) → (a : List (List Cell)) →
    sameMembers fields a a = true
  | [], _ => by simp [sameMembers]
  | f :: fields, a => by
    simp only [sameMembers, Bool.and_eq_true]
    exact ⟨sameItems_self f _, sameMembers_self fields _⟩

end

end Cell

namespace Series

def same (a b : Series) : Bool :=
  a.type == b.type &&
    match a.elements, b.elements with
    | .nulls m, .nulls n => m == n
    | _, _ => Cell.sameRuns a.type a.cells b.cells

theorem same_self (s : Series) : s.same s = true := by
  unfold same
  cases s.elements <;> simp [Cell.sameRuns_self]

end Series

end Columnar
