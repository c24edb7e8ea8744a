import Columnar.Component.Input
import Columnar.Error
import Columnar.Image.Reading

/-!
# Encodings

An encoding is a canonical type of series together with the raw values that it takes. Taking in a
value either gives a series of that type without nulls or a fault; a null is never passed on.

## Main definitions

- `Fault`: what is wrong with a raw value.
- `Encoding`: the encodings.
- `Encoding.type`: the type of the series that an encoding gives.
- `Encoding.ofJson`, `Encoding.ofSeries`, `Encoding.encode`: taking in a raw value.
-/

namespace Columnar

/-! ## Faults -/

inductive Expected where
  | number
  | numbers
  | text
  | texts
  | byte
  | bytes
  | triple
  | imageFormat
deriving DecidableEq, Repr

def Expected.description : Expected → String
  | .number => "a number"
  | .numbers => "a number or an array of numbers"
  | .text => "a string"
  | .texts => "a string or an array of strings"
  | .byte => "a byte (0..=255)"
  | .bytes => "an array of bytes"
  | .triple => "an array of 3 numbers"
  | .imageFormat => "an image format object"

inductive Fault where
  | unexpected (expected : Expected) (kind : String)
  /-- A vector of so many components. -/
  | components (count : Nat)
  /-- A finite number beyond the range of thirty-two bits. -/
  | outOfRange (x : Double)
  | nulls (count : Nat)
  | unsupported (type : DataType)
  | format (fault : ImageFormat.Fault)
deriving DecidableEq

def Fault.message : Fault → String
  | .unexpected expected kind => "expected " ++ expected.description ++ ", got " ++ kind
  | .components count => "expected 3 components, got " ++ toString count
  | .outOfRange x => x.write .plain ++ " is out of range for f32"
  | .nulls count => "input contains " ++ toString count ++ " null values"
  | .unsupported type => "unsupported Arrow type " ++ type.text
  | .format fault => fault.message

def Fault.ofJson (expected : Expected) (v : Json.Value) : Fault := .unexpected expected v.kind

/-! ## Numbers -/

/-- The nearest number of thirty-two bits, unless that loses a finite number to infinity. -/
def Double.narrow (x : Double) : Except Fault Single :=
  if x.isFinite && !x.toSingle.isFinite then .error (.outOfRange x) else .ok x.toSingle

def Atom.narrow (type : Primitive) : Atom → Except Fault Single
  | .single x => .ok x
  | a => (a.toDouble type).narrow

def DataType.number? : DataType → Option Primitive
  | .primitive p => if p.isNumeric then some p else none
  | _ => none

namespace Encoding

def jsonNumber : Json.Value → Except Fault Double
  | .number n => .ok n.toDouble
  | v => .error (.ofJson .number v)

def jsonNumbers : Json.Value → Except Fault (List Double)
  | .number n => .ok [n.toDouble]
  | .array items => items.mapM jsonNumber
  | v => .error (.ofJson .numbers v)

def refuseNulls (s : Series) : Except Fault Unit :=
  if s.nullCount = 0 then .ok () else .error (.nulls s.nullCount)

def numbers (s : Series) : Except Fault (Primitive × List Atom) :=
  match s.type.number? with
  | none => .error (.unsupported s.type)
  | some p => do
    refuseNulls s
    .ok (p, s.atoms)

def doublesOfJson (v : Json.Value) : Except Fault Series := do
  let xs ← jsonNumbers v
  .ok (.doubles xs)

def doublesOfSeries (s : Series) : Except Fault Series := do
  let (p, atoms) ← numbers s
  .ok (.doubles (atoms.map (Atom.toDouble p)))

def singlesOfJson (v : Json.Value) : Except Fault Series := do
  let xs ← jsonNumbers v
  let ys ← xs.mapM Double.narrow
  .ok (.singles ys)

def singlesOfSeries (s : Series) : Except Fault Series := do
  let (p, atoms) ← numbers s
  let xs ← atoms.mapM (Atom.narrow p)
  .ok (.singles xs)

/-! ## Texts -/

def jsonText : Json.Value → Except Fault String
  | .string s => .ok s
  | v => .error (.ofJson .text v)

def textsOfJson : Json.Value → Except Fault Series
  | .string s => .ok (.texts [s])
  | .array items => do
    let texts ← items.mapM jsonText
    .ok (.texts texts)
  | v => .error (.ofJson .texts v)

def textsOfSeries (s : Series) : Except Fault Series :=
  match s.type with
  | .primitive .utf8 | .primitive .largeUtf8 | .primitive .utf8View => do
    refuseNulls s
    .ok (.texts (s.atoms.filterMap Atom.text?))
  | type => .error (.unsupported type)

/-! ## Blobs -/

def jsonByte (v : Json.Value) : Except Fault UInt8 :=
  match v.int? with
  | some i => if 0 ≤ i ∧ i < 256 then .ok i.toNat.toUInt8 else .error (.ofJson .byte v)
  | none => .error (.ofJson .byte v)

def jsonBytes : Json.Value → Except Fault (List UInt8)
  | .array items => items.mapM jsonByte
  | v => .error (.ofJson .bytes v)

/-- A list of lists is one blob for each; any other list that is not empty is one blob. -/
def blobsOfJson : Json.Value → Except Fault Series
  | .array [] => .ok (.blobs [])
  | .array items =>
    if items.all Json.Value.isArray then do
      let blobs ← items.mapM jsonBytes
      .ok (.blobs blobs)
    else do
      let bytes ← items.mapM jsonByte
      .ok (.blobs [bytes])
  | v => .error (.ofJson .bytes v)

/-- A series of bytes is one blob; of blobs each element is one. -/
def blobsOfSeries (s : Series) : Except Fault Series := do
  refuseNulls s
  match s.type with
  | .primitive .binary | .primitive .largeBinary | .primitive .binaryView =>
    .ok (.blobs (s.atoms.filterMap Atom.bytes?))
  | .primitive .uint8 => .ok (.blobs [s.atoms.filterMap Atom.byte?])
  | type => .error (.unsupported type)

/-! ## Vectors -/

def jsonComponent (v : Json.Value) : Except Fault Single := do
  let x ← jsonNumber v
  x.narrow

def jsonVector : List Json.Value → Except Fault Vec3
  | [x, y, z] => do
    let x ← jsonComponent x
    let y ← jsonComponent y
    let z ← jsonComponent z
    .ok ⟨x, y, z⟩
  | components => .error (.components components.length)

def jsonTriple : Json.Value → Except Fault Vec3
  | .array components => jsonVector components
  | v => .error (.ofJson .triple v)

/-- A list of numbers only is one vector; any other list has a vector in each place. -/
def vectorsOfJson : Json.Value → Except Fault Series
  | .array items =>
    if !items.isEmpty && items.all Json.Value.isNumber then do
      let v ← jsonVector items
      .ok (Vec3.series [v])
    else do
      let vs ← items.mapM jsonTriple
      .ok (Vec3.series vs)
  | v => .error (.ofJson .triple v)

def vectorOfAtoms (p : Primitive) : List Atom → Except Fault Vec3
  | [x, y, z] => do
    let x ← x.narrow p
    let y ← y.narrow p
    let z ← z.narrow p
    .ok ⟨x, y, z⟩
  | atoms => .error (.components atoms.length)

/-- The elements of a series are vectors if they are lists of three numbers, under whatever name.
Items beyond the last whole list are checked like the others and left out. -/
def vectorsOfSeries (s : Series) (surplus : List Cell) : Except Fault Series := do
  refuseNulls s
  match s.type with
  | .fixedSizeList item 3 =>
    match item.type.number? with
    | none => .error (.unsupported s.type)
    | some p => do
      let missing := (s.items ++ surplus).countP Cell.isMissing
      if missing ≠ 0 then .error (.nulls missing)
      else do
        let vs ← s.cells.mapM fun c => vectorOfAtoms p (c.items.filterMap Cell.atom?)
        let _ ← (surplus.filterMap Cell.atom?).mapM (Atom.narrow p)
        .ok (Vec3.series vs)
  | type => .error (.unsupported type)

/-! ## Image formats -/

def jsonFormat (v : Json.Value) : Except Fault ImageFormat := (ImageFormat.read v).mapError .format

/-- An object is one format; a list has a format in each place. -/
def formatsOfJson : Json.Value → Except Fault Series
  | .object entries => do
    let format ← jsonFormat (.object entries)
    .ok (ImageFormat.series [format])
  | .array items => do
    let formats ← items.mapM jsonFormat
    .ok (ImageFormat.series formats)
  | v => .error (.ofJson .imageFormat v)

def formatsOfSeries (s : Series) : Except Fault Series :=
  if s.type = ImageFormat.type then do
    refuseNulls s
    .ok s
  else .error (.unsupported s.type)

end Encoding

/-! ## The encodings -/

/-- A canonical type of series with the raw values that it takes. -/
inductive Encoding where
  | doubles
  | singles
  | texts
  | blobs
  | vectors
  | imageFormats
deriving DecidableEq, Repr

namespace Encoding

def all : List Encoding := [.doubles, .singles, .texts, .blobs, .vectors, .imageFormats]

def name : Encoding → String
  | .doubles => "arche.datatypes.Float64"
  | .singles => "arche.datatypes.Float32"
  | .texts => "arche.datatypes.Utf8"
  | .blobs => "arche.datatypes.Blob"
  | .vectors => "arche.datatypes.Vec3D"
  | .imageFormats => "arche.datatypes.ImageFormat"

def type : Encoding → DataType
  | .doubles => .float64
  | .singles => .float32
  | .texts => .utf8
  | .blobs => .binary
  | .vectors => Vec3.type
  | .imageFormats => ImageFormat.type

def ofJson : Encoding → Json.Value → Except Fault Series
  | .doubles => doublesOfJson
  | .singles => singlesOfJson
  | .texts => textsOfJson
  | .blobs => blobsOfJson
  | .vectors => vectorsOfJson
  | .imageFormats => formatsOfJson

/-- Takes in a series, with the items beyond its last whole list if it is one of lists. -/
def ofSeries (e : Encoding) (s : Series) (surplus : List Cell) : Except Fault Series :=
  match e with
  | .doubles => doublesOfSeries s
  | .singles => singlesOfSeries s
  | .texts => textsOfSeries s
  | .blobs => blobsOfSeries s
  | .vectors => vectorsOfSeries s surplus
  | .imageFormats => formatsOfSeries s

def take (e : Encoding) : Input → Except Fault Series
  | .json v => e.ofJson v
  | .series s surplus => e.ofSeries s surplus

/-- Takes in a raw value; a fault is reported under the encoding's name. -/
def encode (e : Encoding) (input : Input) : Except Error Series :=
  (e.take input).mapError fun (fault : Fault) => .conversion e.name fault.message

end Encoding

end Columnar
