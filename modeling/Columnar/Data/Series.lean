import Columnar.Data.Cell

/-!
# Series

A series is an immutable sequence of elements of one type. A series of the null type has no values,
so it is kept as its length alone; every other one is a list of cells of its type.

## Main definitions

- `Series`: a type and elements that fit it.
- `Series.cells`: the elements as a list, through which the operations are described.
- `Series.slice`, `Series.empty`, `Series.ofCells?`, `Series.ofList`: cutting and building.
-/

namespace Columnar

inductive Elements where
  | nulls (count : Nat)
  | cells (list : List Cell)
deriving DecidableEq

/-- Whether elements are kept in the way that belongs to a type and fit it. -/
def Elements.Fit (type : DataType) : Elements → Prop
  | .nulls _ => type = .null
  | .cells list => type ≠ .null ∧ ∀ c ∈ list, c.fits type = true

instance (type : DataType) (e : Elements) : Decidable (e.Fit type) := by
  cases e <;> simp only [Elements.Fit] <;> infer_instance

structure Series where
  type : DataType
  elements : Elements
  fit : elements.Fit type
deriving DecidableEq

namespace Series

/-! ## Reading -/

def cells (s : Series) : List Cell :=
  match s.elements with
  | .nulls n => List.replicate n .null
  | .cells list => list

def length (s : Series) : Nat :=
  match s.elements with
  | .nulls n => n
  | .cells list => list.length

def isEmpty (s : Series) : Bool := s.length == 0

/-- Number of elements without a value. -/
def nullCount (s : Series) : Nat :=
  match s.elements with
  | .nulls n => n
  | .cells list => list.countP Cell.isMissing

@[simp] theorem length_cells (s : Series) : s.cells.length = s.length := by
  unfold cells length; cases s.elements <;> simp

theorem nullCount_eq (s : Series) : s.nullCount = s.cells.countP Cell.isMissing := by
  unfold nullCount cells
  cases s.elements with
  | nulls n => simp [List.countP_replicate, Cell.isMissing]
  | cells list => rfl

def atoms (s : Series) : List Atom := s.cells.filterMap Cell.atom?

def items (s : Series) : List Cell := s.cells.flatMap Cell.items

/-! ## Cutting -/

/-- `count` elements from the one at `start` on, or as many as there are. -/
def slice (s : Series) (start count : Nat) : Series where
  type := s.type
  elements :=
    match s.elements with
    | .nulls n => .nulls (min count (n - start))
    | .cells list => .cells ((list.drop start).take count)
  fit := by
    have h := s.fit
    cases he : s.elements with
    | nulls n => rw [he] at h; exact h
    | cells list =>
      rw [he] at h
      exact ⟨h.1, fun c hc => h.2 c (List.mem_of_mem_drop (List.mem_of_mem_take hc))⟩

@[simp] theorem type_slice (s : Series) (start count : Nat) : (s.slice start count).type = s.type :=
  rfl

@[simp] theorem cells_slice (s : Series) (start count : Nat) :
    (s.slice start count).cells = (s.cells.drop start).take count := by
  obtain ⟨type, elements, fit⟩ := s
  cases elements <;> simp [slice, cells]

def drop (s : Series) (count : Nat) : Series where
  type := s.type
  elements :=
    match s.elements with
    | .nulls n => .nulls (n - count)
    | .cells list => .cells (list.drop count)
  fit := by
    have h := s.fit
    cases he : s.elements with
    | nulls n => rw [he] at h; exact h
    | cells list =>
      rw [he] at h
      exact ⟨h.1, fun c hc => h.2 c (List.mem_of_mem_drop hc)⟩

def take (s : Series) (count : Nat) : Series := s.slice 0 count

@[simp] theorem type_drop (s : Series) (count : Nat) : (s.drop count).type = s.type := rfl

@[simp] theorem cells_drop (s : Series) (count : Nat) :
    (s.drop count).cells = s.cells.drop count := by
  obtain ⟨type, elements, fit⟩ := s
  cases elements <;> simp [drop, cells]

@[simp] theorem cells_take (s : Series) (count : Nat) :
    (s.take count).cells = s.cells.take count := by
  rw [take, cells_slice, List.drop_zero]

/-! ## Building -/

def nulls (count : Nat) : Series := ⟨.null, .nulls count, rfl⟩

def empty (type : DataType) : Series :=
  if h : type = .null then ⟨type, .nulls 0, h⟩
  else ⟨type, .cells [], h, fun _ hc => absurd hc List.not_mem_nil⟩

def ofCells? (type : DataType) (list : List Cell) : Option Series :=
  if type = .null then
    if list.all Cell.isNull then some (nulls list.length) else none
  else if h : (Elements.cells list).Fit type then some ⟨type, .cells list, h⟩
  else none

/-- The series of a type whose elements are made from a list, by a function all of whose values
fit the type. -/
def ofList {α : Type} (type : DataType) (cell : α → Cell) (xs : List α)
    (nonnull : type ≠ .null) (fit : ∀ x, (cell x).fits type = true) : Series :=
  ⟨type, .cells (xs.map cell), nonnull, fun c hc => by
    obtain ⟨x, _, rfl⟩ := List.mem_map.1 hc
    exact fit x⟩

@[simp] theorem type_empty (type : DataType) : (empty type).type = type := by
  unfold empty; split <;> rfl

@[simp] theorem cells_empty (type : DataType) : (empty type).cells = [] := by
  unfold empty; split <;> rfl

@[simp] theorem cells_ofList {α : Type} (type : DataType) (cell : α → Cell) (xs : List α)
    (nonnull : type ≠ .null) (fit : ∀ x, (cell x).fits type = true) :
    (ofList type cell xs nonnull fit).cells = xs.map cell := rfl

def doubles (xs : List Double) : Series :=
  ofList .float64 (fun x => .atom (.double x)) xs (by decide) (fun _ => rfl)

def singles (xs : List Single) : Series :=
  ofList .float32 (fun x => .atom (.single x)) xs (by decide) (fun _ => rfl)

def texts (xs : List String) : Series :=
  ofList .utf8 (fun x => .atom (.text x)) xs (by decide) (fun _ => rfl)

def blobs (xs : List (List UInt8)) : Series :=
  ofList .binary (fun x => .atom (.bytes x)) xs (by decide) (fun _ => rfl)

theorem admits_int64 (i : Int64) : Primitive.admits .int64 (.int i.toInt) = true := by
  have h := i.toInt_lt
  have h' := i.le_toInt
  simp only [Primitive.admits, Cell.within, Bool.and_eq_true, decide_eq_true_eq]
  omega

def int64s (xs : List Int64) : Series :=
  ofList .int64 (fun i => .atom (.int i.toInt)) xs (by decide)
    (fun i => by simpa only [Cell.fits] using admits_int64 i)

end Series

end Columnar
