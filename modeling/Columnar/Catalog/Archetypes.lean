import Columnar.Record.Archetype
import Columnar.Text.Letters

/-!
# Known archetypes

## Main definitions

- `Archetype.capsules3D`, `Archetype.scalar`, `Archetype.segmentationImage`,
  `Archetype.spaceViewContents`: the archetypes of the catalog.
- `Archetype.known`: all of them, ordered by full name.
- `Archetype.find?`: the archetype of a full or short name.
-/

namespace Columnar.Archetype

/-! ## The catalog -/

def capsules3D : Archetype where
  name := "arche.archetypes.Capsules3D"
  indicator := "arche.components.Capsules3DIndicator"
  doc :=
    "3D capsules; cylinders with hemispherical caps. Each capsule is aligned with the local Z axis, "
      ++ "its base cap centered on the origin."
  fields :=
    [⟨"lengths", .length, "Lengths of the capsules, between the centers of their caps."⟩,
      ⟨"radii", .radius, "Radii of the capsules."⟩,
      ⟨"translations", .translation3D, "Optional translations of the capsules."⟩]

def scalar : Archetype where
  name := "arche.archetypes.Scalar"
  indicator := "arche.components.ScalarIndicator"
  doc :=
    "A double-precision scalar, e.g. one sample of a time series. "
      ++ "Log a sequence of scalars over a timeline to plot it."
  fields := [⟨"scalar", .scalar, "The scalar value to log."⟩]

def segmentationImage : Archetype where
  name := "arche.archetypes.SegmentationImage"
  indicator := "arche.components.SegmentationImageIndicator"
  doc :=
    "An image made up of integer class ids. Each pixel is mapped to a color through the annotation "
      ++ "context."
  fields :=
    [⟨"buffer", .imageBuffer, "The raw image data."⟩,
      ⟨"format", .imageFormat, "The format of the image."⟩,
      ⟨"opacity", .opacity,
        "Opacity of the image, useful for layering it on top of another image."⟩,
      ⟨"draw_order", .drawOrder,
        "2D drawing order. Higher values are drawn on top of lower ones."⟩]

def spaceViewContents : Archetype where
  name := "arche.blueprint.archetypes.SpaceViewContents"
  indicator := "arche.blueprint.components.SpaceViewContentsIndicator"
  doc := "The contents of a space view."
  fields :=
    [⟨"query", .queryExpression,
      "The query expressions that determine which entities are part of the space view."⟩]

/-! ## Look-up -/

def known : List Archetype := [capsules3D, scalar, segmentationImage, spaceViewContents]

/-- The archetype of a full name, or else of a short name in whatever case. -/
def find? (name : String) : Option Archetype :=
  (known.find? fun a => a.name == name).or
    (known.find? fun a => Text.sameLetters a.shortName name)

end Columnar.Archetype
