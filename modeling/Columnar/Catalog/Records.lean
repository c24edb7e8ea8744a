import Columnar.Catalog.Archetypes
import Columnar.Catalog.Typed

/-!
# Records of the known archetypes

## Main definitions

- `Scalar`, `SpaceViewContents`, `Capsules3D`, `SegmentationImage`: the records, each with the
  values of its fields, the ways to make it and the batches of its fields.
- `SegmentationImage.tryFromClassIds`: the image of a list of class ids.
-/

namespace Columnar

/-! ## Scalars -/

structure ScalarValues where
  scalar : Option Input

instance : FieldValues ScalarValues where
  archetype := .scalar
  entries v := [("scalar", v.scalar)]

abbrev Scalar := Typed ScalarValues

namespace Scalar

/-- Several values make one row each in the column form. -/
def ofInput (scalar : Input) : Reporting Scalar :=
  Typed.construct (V := ScalarValues) ⟨some scalar⟩ .standard

def scalar? (s : Scalar) : Option Batch := s.record.batch? "scalar"

def batches (s : Scalar) : List (Option Batch) := [scalar? s]

end Scalar

/-! ## Contents of space views -/

structure SpaceViewContentsValues where
  query : Option Input

instance : FieldValues SpaceViewContentsValues where
  archetype := .spaceViewContents
  entries v := [("query", v.query)]

abbrev SpaceViewContents := Typed SpaceViewContentsValues

namespace SpaceViewContents

def ofInput (query : Input) : Reporting SpaceViewContents :=
  Typed.construct (V := SpaceViewContentsValues) ⟨some query⟩ .standard

def query? (s : SpaceViewContents) : Option Batch := s.record.batch? "query"

def batches (s : SpaceViewContents) : List (Option Batch) := [query? s]

end SpaceViewContents

/-! ## Capsules -/

structure Capsules3DValues where
  lengths : Option Input
  radii : Option Input
  translations : Option Input

instance : FieldValues Capsules3DValues where
  archetype := .capsules3D
  entries v := [("lengths", v.lengths), ("radii", v.radii), ("translations", v.translations)]

abbrev Capsules3D := Typed Capsules3DValues

namespace Capsules3D

def ofLengthsAndRadii (lengths radii : Input) : Reporting Capsules3D :=
  Typed.construct (V := Capsules3DValues) ⟨some lengths, some radii, none⟩ .standard

def withTranslations (c : Capsules3D) (translations : Input) : Reporting Capsules3D :=
  c.patch (Patch.blank.set "translations" translations) .standard

def lengths? (c : Capsules3D) : Option Batch := c.record.batch? "lengths"

def radii? (c : Capsules3D) : Option Batch := c.record.batch? "radii"

def translations? (c : Capsules3D) : Option Batch := c.record.batch? "translations"

def batches (c : Capsules3D) : List (Option Batch) := [lengths? c, radii? c, translations? c]

end Capsules3D

/-! ## Segmentation images -/

structure SegmentationImageValues where
  buffer : Option Input
  format : Option Input
  opacity : Option Input
  drawOrder : Option Input

instance : FieldValues SegmentationImageValues where
  archetype := .segmentationImage
  entries v :=
    [("buffer", v.buffer), ("format", v.format), ("opacity", v.opacity),
      ("draw_order", v.drawOrder)]

abbrev SegmentationImage := Typed SegmentationImageValues

namespace SegmentationImage

def ofBufferAndFormat (buffer format : Input) : Reporting SegmentationImage :=
  Typed.construct (V := SegmentationImageValues) ⟨some buffer, some format, none, none⟩ .standard

/-- The two bytes of a word, the lower one first. -/
def wordBytes (w : UInt16) : List UInt8 := [w.toUInt8, (w >>> 8).toUInt8]

/-- The image of class ids row by row, if there is one for each pixel. -/
def tryFromClassIds (width height : UInt32) (ids : List UInt16) :
    Except Error SegmentationImage :=
  let pixels := width.toNat * height.toNat
  if ids.length ≠ pixels then
    .error (.inField Archetype.segmentationImage.shortName "buffer"
      (.lengthMismatch (toString width.toNat ++ "x" ++ toString height.toNat ++ " class ids") pixels
        ids.length))
  else
    Typed.tryConstruct
      ⟨some (.ofBytes (ids.flatMap wordBytes)),
        some (.ofFormat (.segmentation width height .u16)), none, none⟩

/-- The image of class ids; if there are too many or too few, the image is unset. -/
def fromClassIds (width height : UInt32) (ids : List UInt16) (d : Diagnostics) :
    Reporting SegmentationImage :=
  match tryFromClassIds width height ids with
  | .ok image => pure image
  | .error e => do
    d.report Archetype.segmentationImage.shortName e none
    pure Typed.unset

def withOpacity (i : SegmentationImage) (opacity : Single) : Reporting SegmentationImage :=
  i.patch (Patch.blank.set "opacity" (.ofSingles [opacity])) .standard

def withDrawOrder (i : SegmentationImage) (drawOrder : Single) : Reporting SegmentationImage :=
  i.patch (Patch.blank.set "draw_order" (.ofSingles [drawOrder])) .standard

def buffer? (i : SegmentationImage) : Option Batch := i.record.batch? "buffer"

def format? (i : SegmentationImage) : Option Batch := i.record.batch? "format"

def opacity? (i : SegmentationImage) : Option Batch := i.record.batch? "opacity"

def drawOrder? (i : SegmentationImage) : Option Batch := i.record.batch? "draw_order"

def batches (i : SegmentationImage) : List (Option Batch) :=
  [buffer? i, format? i, opacity? i, drawOrder? i]

end SegmentationImage

end Columnar
