import Columnar.Data.Type
import Columnar.Number.Binary

/-!
# Cells

A cell is one element of a series: null, a value without parts, or cells that belong together.

## Main definitions

- `Atom`, `Cell`: values and elements, with decidable equality. Floating-point numbers are equal if
  their bits are.
- `Cell.isNull`, `Cell.isMissing`: the cell is null, or refers to a null of a dictionary.
- `Cell.fits`: the cell is an element of a type.
-/

namespace Columnar

/-- A value without parts. Integers of every width, dates, timestamps and the unscaled values of
decimals are integers alike. -/
inductive Atom where
  | bool (b : Bool)
  | int (i : Int)
  | half (x : Half)
  | single (x : Single)
  | double (x : Double)
  | text (s : String)
  | bytes (b : List UInt8)
deriving DecidableEq, Repr

inductive Cell where
  | null
  | atom (a : Atom)
  | list (items : List Cell)
  | record (members : List Cell)
  | entry (value : Cell)

instance : Inhabited Cell := ⟨.null⟩

namespace Atom

/-- The number that a value of a numeric type is. Decimals are divided by their power of ten, and of
those of 256 bits the low sixty-four bits of the size count; a value of another type is zero. -/
def toDouble (type : Primitive) : Atom → Double
  | .int i =>
    match type with
    | .decimal128 _ scale => (Double.ofInt i).div (Double.tenPow scale)
    | .decimal256 _ scale => (Double.ofInt (i.tmod 0x10000000000000000)).div (Double.tenPow scale)
    | _ => Double.ofInt i
  | .half x => x.toDouble
  | .single x => x.toDouble
  | .double x => x
  | _ => Double.ofInt 0

def text? : Atom → Option String
  | .text s => some s
  | _ => none

def bytes? : Atom → Option (List UInt8)
  | .bytes b => some b
  | _ => none

def byte? : Atom → Option UInt8
  | .int i => some (UInt8.ofInt i)
  | _ => none

end Atom

namespace Cell

/-! ## Equality -/

mutual

def decEq : (a b : Cell) → Decidable (a = b)
  | .null, .null => isTrue rfl
  | .atom a, .atom b => if h : a = b then isTrue (h ▸ rfl) else isFalse (by simp [h])
  | .list a, .list b =>
    match decEqList a b with
    | isTrue h => isTrue (h ▸ rfl)
    | isFalse h => isFalse (by simp [h])
  | .record a, .record b =>
    match decEqList a b with
    | isTrue h => isTrue (h ▸ rfl)
    | isFalse h => isFalse (by simp [h])
  | .entry a, .entry b =>
    match decEq a b with
    | isTrue h => isTrue (h ▸ rfl)
    | isFalse h => isFalse (by simp [h])
  | .null, .atom _ | .null, .list _ | .null, .record _ | .null, .entry _ | .atom _, .null
  | .atom _, .list _ | .atom _, .record _ | .atom _, .entry _ | .list _, .null | .list _, .atom _
  | .list _, .record _ | .list _, .entry _ | .record _, .null | .record _, .atom _
  | .record _, .list _ | .record _, .entry _ | .entry _, .null | .entry _, .atom _
  | .entry _, .list _ | .entry _, .record _ => isFalse (by simp)

def decEqList : (a b : List Cell) → Decidable (a = b)
  | [], [] => isTrue rfl
  | [], _ :: _ => isFalse (by simp)
  | _ :: _, [] => isFalse (by simp)
  | a :: as, b :: bs =>
    match decEq a b, decEqList as bs with
    | isTrue h, isTrue h' => isTrue (by rw [h, h'])
    | isFalse h, _ => isFalse (by simp [h])
    | _, isFalse h => isFalse (by simp [h])

end

instance : DecidableEq Cell := decEq

def isNull : Cell → Bool
  | .null => true
  | _ => false

@[simp] theorem isNull_iff {c : Cell} : c.isNull = true ↔ c = .null := by cases c <;> simp [isNull]

/-- Whether there is no value: a null, or an entry of a dictionary that is null. -/
def isMissing : Cell → Bool
  | .null => true
  | .entry value => value.isMissing
  | _ => false

def atom? : Cell → Option Atom
  | .atom a => some a
  | _ => none

def items : Cell → List Cell
  | .list items => items
  | _ => []

def members : Cell → List Cell
  | .record members => members
  | _ => []

def referent : Cell → Cell
  | .entry value => value
  | c => c

/-! ## Elements of a type -/

def within (low high i : Int) : Bool := decide (low ≤ i) && decide (i ≤ high)

end Cell

/-- Whether a value is one of a primitive type. -/
def Primitive.admits : Primitive → Atom → Bool
  | .boolean, .bool _ => true
  | .int8, .int i => Cell.within (-0x80) 0x7f i
  | .int16, .int i => Cell.within (-0x8000) 0x7fff i
  | .int32, .int i | .date32, .int i => Cell.within (-0x80000000) 0x7fffffff i
  | .int64, .int i | .timestamp, .int i => Cell.within (-0x8000000000000000) 0x7fffffffffffffff i
  | .uint8, .int i => Cell.within 0 0xff i
  | .uint16, .int i => Cell.within 0 0xffff i
  | .uint32, .int i => Cell.within 0 0xffffffff i
  | .uint64, .int i => Cell.within 0 0xffffffffffffffff i
  | .float16, .half _ | .float32, .single _ | .float64, .double _ => true
  | .decimal128 _ _, .int _ | .decimal256 _ _, .int _ => true
  | .utf8, .text _ | .largeUtf8, .text _ | .utf8View, .text _ => true
  | .binary, .bytes _ | .largeBinary, .bytes _ | .binaryView, .bytes _ => true
  | .fixedSizeBinary size, .bytes b => b.length == size
  | _, _ => false

namespace Cell

mutual

/-- Whether a cell is an element of a type. Null is an element of every type; parts that are not
nullable have no null within an element. -/
def fits (type : DataType) : Cell → Bool
  | .null => true
  | .atom a =>
    match type with
    | .primitive p => p.admits a
    | _ => false
  | .list items =>
    match type with
    | .list item => allFit item items
    | .fixedSizeList item size => items.length == size && allFit item items
    | _ => false
  | .record cells =>
    match type with
    | .struct members => eachFits members cells
    | _ => false
  | .entry value =>
    match type with
    | .dictionary t => fits t value
    | _ => false

def allFit (item : Field) : List Cell → Bool
  | [] => true
  | c :: cs => (item.nullable || !c.isMissing) && fits item.type c && allFit item cs

/-- Whether the cells fit the fields one by one, with none left over. -/
def eachFits (members : List Field) : List Cell → Bool
  | [] => members.isEmpty
  | c :: cs =>
    match members with
    | [] => false
    | m :: ms => (m.nullable || !c.isMissing) && fits m.type c && eachFits ms cs

end

end Cell

end Columnar
