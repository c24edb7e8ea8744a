import Columnar.Proofs.Catalog.Members
import Columnar.Proofs.Component.Canonical
import Columnar.Proofs.Image.Columns
import Columnar.Proofs.Image.Size

/-!
# Images of class ids

An image of class ids has one id for each pixel, and each id becomes two bytes of the buffer, the
lower one first. Nothing is lost on the way: the words of the buffer are the ids, and the format
says how many there are. Whether there is an image depends on the number of the ids alone.

## Main statements

- `SegmentationImage.words?`: the words of bytes.
- `SegmentationImage.words?_flatMap`: the words of the bytes of words.
- `SegmentationImage.OfClassIds`: an image of class ids.
- `SegmentationImage.tryFromClassIds_lossless`: when there is an image, and what it is.
-/

namespace Columnar.SegmentationImage

variable {width height : UInt32} {ids : List UInt16}

/-! ## Words -/

/-- The word of two bytes, the lower one first. -/
def word (low high : UInt8) : UInt16 := .ofNat (low.toNat + 256 * high.toNat)

/-- The words of bytes, two bytes for each word. -/
def words? : List UInt8 → Option (List UInt16)
  | [] => some []
  | [_] => none
  | low :: high :: bytes => (words? bytes).map (word low high :: ·)

theorem toNat_word (low high : UInt8) : (word low high).toNat = low.toNat + 256 * high.toNat := by
  have hlow := low.toNat_lt
  have hhigh := high.toNat_lt
  rw [word, UInt16.toNat_ofNat', Nat.mod_eq_of_lt (by omega)]

theorem toNat_high (w : UInt16) : (w >>> 8).toUInt8.toNat = w.toNat / 256 := by
  have hw := w.toNat_lt
  rw [UInt16.toNat_toUInt8, UInt16.toNat_shiftRight, Nat.shiftRight_eq_div_pow]
  exact Nat.mod_eq_of_lt (Nat.div_lt_of_lt_mul hw)

theorem word_wordBytes (w : UInt16) : word w.toUInt8 (w >>> 8).toUInt8 = w := by
  refine UInt16.toNat_inj.1 ?_
  rw [toNat_word, toNat_high, UInt16.toNat_toUInt8]
  exact Nat.mod_add_div w.toNat 256

/-- The words of the bytes of words are these words. -/
theorem words?_flatMap (ids : List UInt16) : words? (ids.flatMap wordBytes) = some ids := by
  induction ids with
  | nil => rfl
  | cons w ids ih =>
    rw [List.flatMap_cons]
    show (words? (ids.flatMap wordBytes)).map (word w.toUInt8 (w >>> 8).toUInt8 :: ·) = _
    rw [ih, word_wordBytes, Option.map_some]

theorem length_flatMap (ids : List UInt16) : (ids.flatMap wordBytes).length = 2 * ids.length := by
  induction ids with
  | nil => rfl
  | cons w ids ih =>
    rw [List.flatMap_cons, List.length_append, ih, List.length_cons]
    show 2 + _ = _
    omega

/-! ## Sizes -/

/-- The number of pixels of an image fits in a word of sixty-four bits. -/
theorem toNat_pixels (width height : UInt32) :
    (width.toUInt64 * height.toUInt64).toNat = width.toNat * height.toNat := by
  have hle := ImageFormat.pixels_le width height
  rw [UInt64.toNat_mul, UInt32.toNat_toUInt64, UInt32.toNat_toUInt64]
  exact Nat.mod_eq_of_lt (Nat.lt_of_le_of_lt hle (by decide))

/-- The size of the format is that of the bytes of the ids, as long as it fits in a word. -/
theorem exists_numBytes?_segmentation (hpixels : ids.length = width.toNat * height.toNat)
    (hlt : 2 * ids.length < UInt64.size) :
    ∃ n, (ImageFormat.segmentation width height .u16).numBytes? = some (.ok n) ∧
      n.toNat = (ids.flatMap wordBytes).length := by
  have hexact : (ImageFormat.segmentation width height .u16).exactBytes .u16 =
      2 * ids.length := by
    rw [hpixels, Nat.mul_comm]
    rfl
  obtain ⟨n, hn⟩ := exists_word_iff.2 hlt
  refine ⟨n, (ImageFormat.numBytes?_eq_ok_iff rfl).2 ?_, ?_⟩
  · rw [hn, hexact]
  · rw [hn, length_flatMap]

/-! ## Images -/

/-- The values from which an image of class ids is made. -/
def valuesOf (width height : UInt32) (ids : List UInt16) : SegmentationImageValues :=
  ⟨some (.ofBytes (ids.flatMap wordBytes)), some (.ofFormat (.segmentation width height .u16)),
    none, none⟩

theorem tryFromClassIds_of_length (h : ids.length = width.toNat * height.toNat) :
    tryFromClassIds width height ids = Typed.tryConstruct (valuesOf width height ids) :=
  if_neg (not_not.2 h)

theorem shortName_archetype : Archetype.segmentationImage.shortName = "SegmentationImage" := by
  decide

/-- What is wrong with a number of ids that is not that of the pixels. -/
def miscount (width height : UInt32) (ids : List UInt16) : Error :=
  .inField "SegmentationImage" "buffer"
    (.lengthMismatch (toString width.toNat ++ "x" ++ toString height.toNat ++ " class ids")
      (width.toNat * height.toNat) ids.length)

theorem tryFromClassIds_of_length_ne (h : ids.length ≠ width.toNat * height.toNat) :
    tryFromClassIds width height ids = .error (miscount width height ids) := by
  rw [tryFromClassIds, shortName_archetype]
  exact if_pos h

theorem convert_ofBytes (bytes : List UInt8) :
    Component.imageBuffer.convert (.ofBytes bytes) = .ok (.blobs [bytes]) :=
  Component.convert_ofSeries (by decide) rfl rfl

theorem convert_ofFormat (f : ImageFormat) :
    Component.imageFormat.convert (.ofFormat f) = .ok (ImageFormat.series [f]) :=
  Component.convert_ofSeries (by decide) rfl rfl

/-- Bytes and formats of the library's own types always convert. -/
theorem exists_tryConstruct_valuesOf (width height : UInt32) (ids : List UInt16) :
    ∃ image, Typed.tryConstruct (valuesOf width height ids) = .ok image := by
  refine declares.exists_tryConstruct ?_
  simp only [members, List.forall_mem_cons]
  refine ⟨?_, ?_, ?_, ?_, fun m hm => absurd hm List.not_mem_nil⟩
  · rintro input ⟨⟩
    exact ⟨_, convert_ofBytes _⟩
  · rintro input ⟨⟩
    exact ⟨_, convert_ofFormat _⟩
  · rintro input ⟨⟩
  · rintro input ⟨⟩

/-- An image of class ids: one blob whose words are the ids, one format that tells how long the blob
is, and neither an opacity nor an order. -/
structure OfClassIds (ids : List UInt16) (image : SegmentationImage) (bytes : List UInt8)
    (format : ImageFormat) : Prop where
  buffer : image.buffer? = some
    ⟨.forField "arche.archetypes.SegmentationImage" "buffer" "arche.components.ImageBuffer",
      .blobs [bytes]⟩
  words : words? bytes = some ids
  formats : ∃ s, image.format? = some
    ⟨.forField "arche.archetypes.SegmentationImage" "format" "arche.components.ImageFormat", s⟩ ∧
      s.formats? = some [format]
  size : ∃ n, format.numBytes? = some (.ok n) ∧ n.toNat = bytes.length
  opacity : image.opacity? = none
  drawOrder : image.drawOrder? = none

theorem ofClassIds_of_tryConstruct {image : SegmentationImage}
    (hpixels : ids.length = width.toNat * height.toNat) (hlt : 2 * ids.length < UInt64.size)
    (h : Typed.tryConstruct (valuesOf width height ids) = .ok image) :
    OfClassIds ids image (ids.flatMap wordBytes) (.segmentation width height .u16) := by
  have hshows (i : Fin 4) : Typed.Shows (members.get i) false (valuesOf width height ids)
      ((members.get i).batch? image) := declares.shows_of_tryConstruct h (members.get_mem i)
  exact {
    buffer := (hshows 0).eq_of_given rfl (convert_ofBytes _)
    words := words?_flatMap ids
    formats := ⟨_, (hshows 1).eq_of_given rfl (convert_ofFormat _), ImageFormat.formats?_series _⟩
    size := exists_numBytes?_segmentation hpixels hlt
    opacity := (hshows 2).eq_none rfl
    drawOrder := (hshows 3).eq_none rfl }

/-- There is an image of class ids if there is one for each pixel, whatever the ids are, and then it
holds all of them. Otherwise the error tells both numbers. The number of pixels fits in a word. -/
theorem tryFromClassIds_lossless (width height : UInt32) {ids : List UInt16}
    (h : 2 * ids.length ≤ Column.maxValues) :
    ((∃ image, tryFromClassIds width height ids = .ok image) ↔
      ids.length = width.toNat * height.toNat) ∧
    (∀ image, tryFromClassIds width height ids = .ok image →
      ∃ bytes, OfClassIds ids image bytes ⟨width, height, none, some .u16⟩) ∧
    (ids.length ≠ width.toNat * height.toNat →
      tryFromClassIds width height ids = .error (miscount width height ids)) ∧
    (width.toUInt64 * height.toUInt64).toNat = width.toNat * height.toNat := by
  have hlength {image} (himage : tryFromClassIds width height ids = .ok image) :
      ids.length = width.toNat * height.toNat := by
    by_contra hne
    rw [tryFromClassIds_of_length_ne hne] at himage
    cases himage
  refine ⟨⟨?_, ?_⟩, ?_, tryFromClassIds_of_length_ne, toNat_pixels width height⟩
  · rintro ⟨image, himage⟩
    exact hlength himage
  · intro hpixels
    rw [tryFromClassIds_of_length hpixels]
    exact exists_tryConstruct_valuesOf width height ids
  · intro image himage
    have hpixels := hlength himage
    have hlt : 2 * ids.length < UInt64.size := Nat.lt_of_le_of_lt h (by decide)
    rw [tryFromClassIds_of_length hpixels] at himage
    exact ⟨_, ofClassIds_of_tryConstruct hpixels hlt himage⟩

/-- An image of two pixels, and one that is three pixels high and has none. -/
theorem tryFromClassIds_lossless_small :
    2 * [(1 : UInt16), 515].length ≤ Column.maxValues ∧
      (∃ image bytes, tryFromClassIds 2 1 [1, 515] = .ok image ∧
        OfClassIds [1, 515] image bytes ⟨2, 1, none, some .u16⟩) ∧
      2 * ([] : List UInt16).length ≤ Column.maxValues ∧
      ∃ image bytes, tryFromClassIds 0 3 [] = .ok image ∧
        OfClassIds [] image bytes ⟨0, 3, none, some .u16⟩ := by
  have hsome : 2 * [(1 : UInt16), 515].length ≤ Column.maxValues := by decide
  have hnone : 2 * ([] : List UInt16).length ≤ Column.maxValues := by decide
  obtain ⟨hiff, hholds, -⟩ := tryFromClassIds_lossless 2 1 hsome
  obtain ⟨hiff', hholds', -⟩ := tryFromClassIds_lossless 0 3 hnone
  obtain ⟨image, himage⟩ := hiff.2 (by decide)
  obtain ⟨image', himage'⟩ := hiff'.2 (by decide)
  obtain ⟨bytes, hbytes⟩ := hholds image himage
  obtain ⟨bytes', hbytes'⟩ := hholds' image' himage'
  exact ⟨hsome, ⟨image, bytes, himage, hbytes⟩, hnone, image', bytes', himage', hbytes'⟩

end Columnar.SegmentationImage
