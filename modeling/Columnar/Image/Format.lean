import Columnar.Data.Series
import Columnar.Json.Value

/-!
# Image formats

Size and layout of the pixels of an image buffer. Formats have two encodings that must agree: a JSON
object of names, and an element of a struct type with a number for each name.

## Main definitions

- `ChannelType`, `ColorModel`: the element type of a channel and the meaning of the channels.
- `ImageFormat`: width, height, and both of these where they are known.
- `ImageFormat.numBytes?`: the size of a buffer, where it fits in a word.
- `ImageFormat.toJson`, `ImageFormat.series`: the two encodings.
-/

namespace Columnar

/-! ## Channels and colors -/

inductive ChannelType where
  | u8 | i8 | u16 | i16 | u32 | i32 | u64 | i64 | f16 | f32 | f64
deriving DecidableEq, Repr

namespace ChannelType

def all : List ChannelType := [.u8, .i8, .u16, .i16, .u32, .i32, .u64, .i64, .f16, .f32, .f64]

def name : ChannelType → String
  | .u8 => "U8"
  | .i8 => "I8"
  | .u16 => "U16"
  | .i16 => "I16"
  | .u32 => "U32"
  | .i32 => "I32"
  | .u64 => "U64"
  | .i64 => "I64"
  | .f16 => "F16"
  | .f32 => "F32"
  | .f64 => "F64"

def code : ChannelType → UInt8
  | .u8 => 6
  | .i8 => 7
  | .u16 => 8
  | .i16 => 9
  | .u32 => 10
  | .i32 => 11
  | .u64 => 12
  | .i64 => 13
  | .f16 => 33
  | .f32 => 34
  | .f64 => 35

def bytesPerElement : ChannelType → Nat
  | .u8 | .i8 => 1
  | .u16 | .i16 | .f16 => 2
  | .u32 | .i32 | .f32 => 4
  | .u64 | .i64 | .f64 => 8

end ChannelType

inductive ColorModel where
  | l | rgb | rgba | bgr | bgra
deriving DecidableEq, Repr

namespace ColorModel

def all : List ColorModel := [.l, .rgb, .rgba, .bgr, .bgra]

def name : ColorModel → String
  | .l => "L"
  | .rgb => "RGB"
  | .rgba => "RGBA"
  | .bgr => "BGR"
  | .bgra => "BGRA"

def code : ColorModel → UInt8
  | .l => 1
  | .rgb => 2
  | .rgba => 3
  | .bgr => 4
  | .bgra => 5

def channels : ColorModel → Nat
  | .l => 1
  | .rgb | .bgr => 3
  | .rgba | .bgra => 4

end ColorModel

/-! ## Formats -/

/-- Why a computation in words of sixty-four bits ends without a result. -/
inductive Overflow where
  /-- No word holds the product of two words. -/
  | product
deriving DecidableEq, Repr

structure ImageFormat where
  width : UInt32
  height : UInt32
  colorModel : Option ColorModel
  channelType : Option ChannelType
deriving DecidableEq, Repr

namespace ImageFormat

def segmentation (width height : UInt32) (channelType : ChannelType) : ImageFormat :=
  ⟨width, height, none, some channelType⟩

/-- Number of channels of a pixel; one where the color model is not known. -/
def channels (f : ImageFormat) : Nat :=
  match f.colorModel with
  | some model => model.channels
  | none => 1

/-- The product of two words, which has to fit in a word itself. -/
def product (a b : UInt64) : Except Overflow UInt64 :=
  if a.toNat * b.toNat < UInt64.size then .ok (a * b) else .error .product

/-- Size of the buffer in bytes for elements of a type, with one factor after the other. -/
def bytesAs (f : ImageFormat) (type : ChannelType) : Except Overflow UInt64 := do
  let pixels ← product f.width.toUInt64 f.height.toUInt64
  let samples ← product pixels f.channels.toUInt64
  product samples type.bytesPerElement.toUInt64

/-- Size of the buffer in bytes if the element type is known. Nothing bounds the dimensions, so even
then the computation may come to a product that does not fit in a word, and ends there. -/
def numBytes? (f : ImageFormat) : Option (Except Overflow UInt64) := f.channelType.map f.bytesAs

/-! ## The JSON encoding -/

/-- The object of a format: names for the color model and the element type, null where unknown. -/
def toJson (f : ImageFormat) : Json.Value :=
  .object
    [("channel_datatype", .ofString? (f.channelType.map ChannelType.name)),
     ("color_model", .ofString? (f.colorModel.map ColorModel.name)),
     ("height", .ofNat f.height.toNat),
     ("width", .ofNat f.width.toNat)]

/-! ## The struct encoding -/

/-- Members of the struct type. Only those that a format may lack are nullable. -/
def members : List Field :=
  [⟨"width", .uint32, false⟩, ⟨"height", .uint32, false⟩, ⟨"color_model", .uint8, true⟩,
    ⟨"channel_datatype", .uint8, true⟩]

def type : DataType := .struct members

def codeCell : Option UInt8 → Cell
  | none => .null
  | some code => .atom (.int code.toNat)

def cell (f : ImageFormat) : Cell :=
  .record
    [.atom (.int f.width.toNat), .atom (.int f.height.toNat),
      codeCell (f.colorModel.map ColorModel.code), codeCell (f.channelType.map ChannelType.code)]

theorem admits_uint32 (x : UInt32) : Primitive.admits .uint32 (.int x.toNat) = true := by
  have h := x.toNat_lt
  simp only [Primitive.admits, Cell.within, Bool.and_eq_true, decide_eq_true_eq]
  omega

theorem admits_uint8 (x : UInt8) : Primitive.admits .uint8 (.int x.toNat) = true := by
  have h := x.toNat_lt
  simp only [Primitive.admits, Cell.within, Bool.and_eq_true, decide_eq_true_eq]
  omega

theorem fits_codeCell (code : Option UInt8) : (codeCell code).fits .uint8 = true := by
  cases code with
  | none => rfl
  | some c => simpa only [codeCell, Cell.fits] using admits_uint8 c

theorem fits_cell (f : ImageFormat) : f.cell.fits type = true := by
  have hw := admits_uint32 f.width
  have hh := admits_uint32 f.height
  have hm := fits_codeCell (f.colorModel.map ColorModel.code)
  have ht := fits_codeCell (f.channelType.map ChannelType.code)
  simp [cell, type, members, Cell.fits, Cell.eachFits, Cell.isMissing, hw, hh, hm, ht]

def series (formats : List ImageFormat) : Series :=
  Series.ofList type cell formats (by decide) fits_cell

end ImageFormat

end Columnar
