import Columnar.Text.Quoted

/-!
# Data types

The type of the elements of a series: a primitive type, or a type built from named fields.

Of the types that no encoding takes only some are listed. Further times and timestamps, durations,
intervals, large lists, list views, maps, unions, run-end encodings and dictionaries with other keys
are left out: a value of theirs would be refused as those of the listed ones are, under the name of
its type. Fields have no notes beside name, type and whether they are nullable.

## Main definitions

- `Primitive`, `DataType`, `Field`: the types, with decidable equality.
- `DataType.isNumeric`: integers, floating-point numbers and decimals.
- `DataType.text`: the name of a type in messages; `DataType.detail` its name within another type.
-/

namespace Columnar

inductive Primitive where
  | null
  | boolean
  | int8
  | int16
  | int32
  | int64
  | uint8
  | uint16
  | uint32
  | uint64
  | float16
  | float32
  | float64
  | decimal128 (precision : Nat) (scale : Int)
  | decimal256 (precision : Nat) (scale : Int)
  /-- Days. -/
  | date32
  /-- Nanoseconds, without a time zone. -/
  | timestamp
  | utf8
  | largeUtf8
  | utf8View
  | binary
  | largeBinary
  | binaryView
  | fixedSizeBinary (size : Nat)
deriving DecidableEq, Repr

mutual

inductive DataType where
  | primitive (p : Primitive)
  | list (item : Field)
  | fixedSizeList (item : Field) (size : Nat)
  | struct (members : List Field)
  /-- Values drawn from a dictionary by keys of thirty-two bits. -/
  | dictionary (value : DataType)

structure Field where
  name : String
  type : DataType
  /-- Whether the part may be null where the whole is not. -/
  nullable : Bool

end

namespace DataType

@[match_pattern] abbrev null : DataType := .primitive .null
@[match_pattern] abbrev int64 : DataType := .primitive .int64
@[match_pattern] abbrev uint8 : DataType := .primitive .uint8
@[match_pattern] abbrev uint32 : DataType := .primitive .uint32
@[match_pattern] abbrev float32 : DataType := .primitive .float32
@[match_pattern] abbrev float64 : DataType := .primitive .float64
@[match_pattern] abbrev utf8 : DataType := .primitive .utf8
@[match_pattern] abbrev binary : DataType := .primitive .binary

end DataType

/-! ## Equality -/

mutual

def DataType.decEq : (a b : DataType) → Decidable (a = b)
  | .primitive a, .primitive b => if h : a = b then isTrue (h ▸ rfl) else isFalse (by simp [h])
  | .list a, .list b =>
    match Field.decEq a b with
    | isTrue h => isTrue (h ▸ rfl)
    | isFalse h => isFalse (by simp [h])
  | .fixedSizeList a n, .fixedSizeList b m =>
    match Field.decEq a b with
    | isTrue h => if h' : n = m then isTrue (by rw [h, h']) else isFalse (by simp [h'])
    | isFalse h => isFalse (by simp [h])
  | .struct a, .struct b =>
    match Field.decEqList a b with
    | isTrue h => isTrue (h ▸ rfl)
    | isFalse h => isFalse (by simp [h])
  | .dictionary a, .dictionary b =>
    match DataType.decEq a b with
    | isTrue h => isTrue (h ▸ rfl)
    | isFalse h => isFalse (by simp [h])
  | .primitive _, .list _ | .primitive _, .fixedSizeList _ _ | .primitive _, .struct _
  | .primitive _, .dictionary _ | .list _, .primitive _ | .list _, .fixedSizeList _ _
  | .list _, .struct _ | .list _, .dictionary _ | .fixedSizeList _ _, .primitive _
  | .fixedSizeList _ _, .list _ | .fixedSizeList _ _, .struct _
  | .fixedSizeList _ _, .dictionary _ | .struct _, .primitive _ | .struct _, .list _
  | .struct _, .fixedSizeList _ _ | .struct _, .dictionary _ | .dictionary _, .primitive _
  | .dictionary _, .list _ | .dictionary _, .fixedSizeList _ _ | .dictionary _, .struct _ =>
    isFalse (by simp)

def Field.decEq : (a b : Field) → Decidable (a = b)
  | ⟨n, t, x⟩, ⟨m, u, y⟩ =>
    match DataType.decEq t u with
    | isTrue h =>
      if h' : n = m ∧ x = y then isTrue (by simp [h, h']) else isFalse (by simpa [h] using h')
    | isFalse h => isFalse (by simp [h])

def Field.decEqList : (a b : List Field) → Decidable (a = b)
  | [], [] => isTrue rfl
  | [], _ :: _ => isFalse (by simp)
  | _ :: _, [] => isFalse (by simp)
  | a :: as, b :: bs =>
    match Field.decEq a b, Field.decEqList as bs with
    | isTrue h, isTrue h' => isTrue (by rw [h, h'])
    | isFalse h, _ => isFalse (by simp [h])
    | _, isFalse h => isFalse (by simp [h])

end

instance : DecidableEq DataType := DataType.decEq
instance : DecidableEq Field := Field.decEq

/-! ## Classes of types -/

def Primitive.isNumeric : Primitive → Bool
  | .int8 | .int16 | .int32 | .int64 | .uint8 | .uint16 | .uint32 | .uint64 => true
  | .float16 | .float32 | .float64 => true
  | .decimal128 _ _ | .decimal256 _ _ => true
  | _ => false

def DataType.isNumeric : DataType → Bool
  | .primitive p => p.isNumeric
  | _ => false

/-! ## Names -/

def Primitive.text : Primitive → String
  | .null => "Null"
  | .boolean => "Boolean"
  | .int8 => "Int8"
  | .int16 => "Int16"
  | .int32 => "Int32"
  | .int64 => "Int64"
  | .uint8 => "UInt8"
  | .uint16 => "UInt16"
  | .uint32 => "UInt32"
  | .uint64 => "UInt64"
  | .float16 => "Float16"
  | .float32 => "Float32"
  | .float64 => "Float64"
  | .decimal128 precision scale =>
    "Decimal128(" ++ toString precision ++ ", " ++ toString scale ++ ")"
  | .decimal256 precision scale =>
    "Decimal256(" ++ toString precision ++ ", " ++ toString scale ++ ")"
  | .date32 => "Date32"
  | .timestamp => "Timestamp(Nanosecond, None)"
  | .utf8 => "Utf8"
  | .largeUtf8 => "LargeUtf8"
  | .utf8View => "Utf8View"
  | .binary => "Binary"
  | .largeBinary => "LargeBinary"
  | .binaryView => "BinaryView"
  | .fixedSizeBinary size => "FixedSizeBinary(" ++ toString size ++ ")"

mutual

/-- The name of a type as a part of another one, with all there is to its fields. -/
def DataType.detail : DataType → String
  | .primitive p => p.text
  | .list item => "List(" ++ Field.detail item ++ ")"
  | .fixedSizeList item size =>
    "FixedSizeList(" ++ Field.detail item ++ ", " ++ toString size ++ ")"
  | .struct members => "Struct([" ++ String.intercalate ", " (Field.details members) ++ "])"
  | .dictionary value => "Dictionary(Int32, " ++ DataType.detail value ++ ")"

def Field.detail : Field → String
  | ⟨name, type, nullable⟩ =>
    "Field \x7b name: " ++ Text.quoted name ++ ", data_type: " ++ DataType.detail type
      ++ ", nullable: " ++ (if nullable then "true" else "false")
      ++ ", dict_id: 0, dict_is_ordered: false, metadata: \x7b\x7d \x7d"

def Field.details : List Field → List String
  | [] => []
  | f :: fs => Field.detail f :: Field.details fs

end

mutual

/-- The name of a type. Of the members of a struct it gives the names and types. -/
def DataType.text : DataType → String
  | .struct members => "Struct(" ++ String.intercalate ", " (Field.texts members) ++ ")"
  | .primitive p => p.text
  | .list item => "List(" ++ Field.detail item ++ ")"
  | .fixedSizeList item size =>
    "FixedSizeList(" ++ Field.detail item ++ ", " ++ toString size ++ ")"
  | .dictionary value => "Dictionary(Int32, " ++ DataType.detail value ++ ")"

def Field.text : Field → String
  | ⟨name, type, _⟩ => name ++ " " ++ DataType.text type

def Field.texts : List Field → List String
  | [] => []
  | f :: fs => Field.text f :: Field.texts fs

end

end Columnar
