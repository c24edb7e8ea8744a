import Columnar.Image.Format
import Columnar.Proofs.Traversal

/-!
# The size of image buffers

The size of a buffer is a product of four factors, computed in words of sixty-four bits that hold one
product after the other. The computation ends where a product does not fit. None of the factors of a
pixel is zero, so that happens exactly if the size itself does not fit, and then a smaller image of
the same pixels may still have a size. Nothing bounds the dimensions before: the largest ones fit if a
pixel is a single byte, and already with two bytes for each pixel they do not.

## Main statements

- `ImageFormat.exactBytes`: the product.
- `ImageFormat.FitsIn`: an image of the same pixels that is neither wider nor higher.
- `ImageFormat.product_eq_ok_iff`: the product of two words.
- `ImageFormat.bytesAs_eq_ok_iff`, `ImageFormat.bytesAs_eq_error_iff`: all of them.
- `ImageFormat.numBytes?_exact`: when there is a size, and that it is exact.
- `ImageFormat.numBytes?_overflows`: an image that has no size.
-/

namespace Columnar

theorem ColorModel.channels_pos (m : ColorModel) : 0 < m.channels := by
  cases m <;> decide

theorem ColorModel.toNat_channels (m : ColorModel) : m.channels.toUInt64.toNat = m.channels := by
  cases m <;> rfl

theorem ChannelType.bytesPerElement_pos (t : ChannelType) : 0 < t.bytesPerElement := by
  cases t <;> decide

theorem ChannelType.toNat_bytesPerElement (t : ChannelType) :
    t.bytesPerElement.toUInt64.toNat = t.bytesPerElement := by
  cases t <;> rfl

theorem exists_word_iff {k : Nat} : (∃ n : UInt64, n.toNat = k) ↔ k < UInt64.size := by
  constructor
  · rintro ⟨n, rfl⟩
    exact n.toNat_lt
  · intro h
    exact ⟨.ofNat k, UInt64.toNat_ofNat_of_lt' h⟩

namespace ImageFormat

/-- The number of bytes of a buffer, whether or not a word can hold it. -/
def exactBytes (f : ImageFormat) (t : ChannelType) : Nat :=
  f.width.toNat * f.height.toNat * (f.channels * t.bytesPerElement)

/-- An image of the same pixels that is neither wider nor higher than another one. -/
structure FitsIn (g f : ImageFormat) : Prop where
  colorModel : g.colorModel = f.colorModel
  channelType : g.channelType = f.channelType
  width : g.width ≤ f.width
  height : g.height ≤ f.height

variable {f g : ImageFormat} {t : ChannelType}

/-! ## Pixels -/

theorem channels_pos (f : ImageFormat) : 0 < f.channels := by
  unfold channels
  cases f.colorModel with
  | none => exact Nat.one_pos
  | some model => exact model.channels_pos

theorem toNat_channels (f : ImageFormat) : f.channels.toUInt64.toNat = f.channels := by
  unfold channels
  cases f.colorModel with
  | none => rfl
  | some model => exact model.toNat_channels

/-! ## Words -/

/-- A product that does not fit is no word, so the result is told by what it is in full. -/
theorem product_eq_ok_iff {a b c : UInt64} : product a b = .ok c ↔ c.toNat = a.toNat * b.toNat := by
  unfold product
  by_cases h : a.toNat * b.toNat < UInt64.size
  · have hmul : (a * b).toNat = a.toNat * b.toNat := by
      rw [UInt64.toNat_mul]
      exact Nat.mod_eq_of_lt h
    rw [if_pos h, ← hmul, UInt64.toNat_inj, Except.ok.injEq]
    exact eq_comm
  · rw [if_neg h]
    constructor
    · intro hc
      cases hc
    · intro hc
      exact absurd (exists_word_iff.1 ⟨c, hc⟩) h

/-- The three products on the way fit if the last one does, as no factor of a pixel is zero. -/
theorem bytesAs_eq_ok_iff {n : UInt64} : f.bytesAs t = .ok n ↔ n.toNat = f.exactBytes t := by
  simp only [bytesAs, bind_eq_ok_iff, product_eq_ok_iff, UInt32.toNat_toUInt64, toNat_channels,
    ChannelType.toNat_bytesPerElement]
  have hbytes : f.exactBytes t =
      f.width.toNat * f.height.toNat * f.channels * t.bytesPerElement := by
    rw [exactBytes, Nat.mul_assoc _ f.channels]
  constructor
  · rintro ⟨pixels, hpixels, samples, hsamples, hn⟩
    rw [hn, hsamples, hpixels, hbytes]
  · intro hn
    have hfits : f.exactBytes t < UInt64.size := exists_word_iff.1 ⟨n, hn⟩
    have hsamples : f.width.toNat * f.height.toNat * f.channels < UInt64.size := by
      have hle := Nat.le_mul_of_pos_right
        (f.width.toNat * f.height.toNat * f.channels) t.bytesPerElement_pos
      omega
    have hpixels : f.width.toNat * f.height.toNat < UInt64.size := by
      have hle := Nat.le_mul_of_pos_right (f.width.toNat * f.height.toNat) f.channels_pos
      omega
    obtain ⟨pixels, hp⟩ := exists_word_iff.2 hpixels
    obtain ⟨samples, hs⟩ := exists_word_iff.2 hsamples
    refine ⟨pixels, hp, samples, ?_, ?_⟩
    · rw [hs, hp]
    · rw [hn, hs, hbytes]

/-- Where there is no word for the product, it is a product on the way that does not fit. -/
theorem bytesAs_eq_error_iff : f.bytesAs t = .error .product ↔ UInt64.size ≤ f.exactBytes t := by
  rw [← Nat.not_lt, ← exists_word_iff]
  simp only [← bytesAs_eq_ok_iff]
  cases f.bytesAs t with
  | ok n => simp
  | error o =>
    cases o with
    | product => simp

theorem numBytes?_eq_some_iff (h : f.channelType = some t) {x : Except Overflow UInt64} :
    f.numBytes? = some x ↔ f.bytesAs t = x := by
  rw [numBytes?, h, Option.map_some, Option.some_inj]

theorem numBytes?_eq_ok_iff (h : f.channelType = some t) {n : UInt64} :
    f.numBytes? = some (.ok n) ↔ n.toNat = f.exactBytes t := by
  rw [numBytes?_eq_some_iff h, bytesAs_eq_ok_iff]

theorem exists_numBytes?_iff (h : f.channelType = some t) :
    (∃ n, f.numBytes? = some (.ok n)) ↔ f.exactBytes t < UInt64.size := by
  simp only [numBytes?_eq_ok_iff h]
  exact exists_word_iff

/-! ## Dimensions -/

theorem FitsIn.exactBytes_le (h : g.FitsIn f) (t : ChannelType) :
    g.exactBytes t ≤ f.exactBytes t := by
  have hchannels : g.channels = f.channels := by
    rw [channels, channels, h.colorModel]
  rw [exactBytes, exactBytes, hchannels]
  exact Nat.mul_le_mul_right _ (Nat.mul_le_mul h.width h.height)

theorem pixels_le (width height : UInt32) :
    width.toNat * height.toNat ≤ 0xffffffff * 0xffffffff := by
  have hwidth := width.toNat_lt
  have hheight := height.toNat_lt
  exact Nat.mul_le_mul (by omega) (by omega)

/-- Products fit for all dimensions if a pixel is a single byte, and only then. -/
theorem exactBytes_lt_iff (f : ImageFormat) (t : ChannelType) :
    (∀ width height, exactBytes { f with width, height } t < UInt64.size) ↔
      f.channels * t.bytesPerElement = 1 := by
  constructor
  · intro h
    have hlargest : 0xffffffff * 0xffffffff * (f.channels * t.bytesPerElement) <
        0x10000000000000000 := h 0xffffffff 0xffffffff
    have hpos := Nat.mul_pos f.channels_pos t.bytesPerElement_pos
    omega
  · intro hone width height
    have hbytes : exactBytes { f with width, height } t = width.toNat * height.toNat * 1 := by
      rw [← hone]
      rfl
    rw [hbytes, Nat.mul_one]
    exact Nat.lt_of_le_of_lt (pixels_le width height) (by decide)

/-! ## Exact sizes -/

/-- Where the element type is known, the size is the product of the dimensions and the bytes of a
pixel, and there is one exactly if the product fits in a word. Otherwise the computation ends with an
overflow. So if there is a size, every image of the same pixels that is neither wider nor higher has
one too, and no larger. For pixels of a single byte, and for no others, there is a size whatever the
dimensions are. -/
theorem numBytes?_exact (h : f.channelType = some t) :
    (∀ n, f.numBytes? = some (.ok n) ↔ n.toNat = f.exactBytes t) ∧
    ((∃ n, f.numBytes? = some (.ok n)) ↔ f.exactBytes t < UInt64.size) ∧
    (f.numBytes? = some (.error .product) ↔ UInt64.size ≤ f.exactBytes t) ∧
    (∀ n, f.numBytes? = some (.ok n) → ∀ g, FitsIn g f →
      ∃ m, g.numBytes? = some (.ok m) ∧ m.toNat = g.exactBytes t ∧ m ≤ n) ∧
    ((∀ width height, ∃ m, numBytes? { f with width, height } = some (.ok m)) ↔
      f.channels * t.bytesPerElement = 1) := by
  refine ⟨fun n => numBytes?_eq_ok_iff h, exists_numBytes?_iff h, ?_, ?_, ?_⟩
  · rw [numBytes?_eq_some_iff h, bytesAs_eq_error_iff]
  · intro n hn g hg
    have hle : g.exactBytes t ≤ f.exactBytes t := hg.exactBytes_le t
    have hlt : f.exactBytes t < UInt64.size := (exists_numBytes?_iff h).1 ⟨n, hn⟩
    have htype : g.channelType = some t := hg.channelType.trans h
    obtain ⟨m, hm⟩ := (exists_numBytes?_iff htype).2 (Nat.lt_of_le_of_lt hle hlt)
    have hmexact : m.toNat = g.exactBytes t := (numBytes?_eq_ok_iff htype).1 hm
    rw [numBytes?_eq_ok_iff h] at hn
    refine ⟨m, hm, hmexact, ?_⟩
    rw [UInt64.le_iff_toNat_le, hmexact, hn]
    exact hle
  · rw [← exactBytes_lt_iff f t]
    exact forall₂_congr fun width height => exists_numBytes?_iff h

/-- The largest image of single bytes, and a smaller one. -/
theorem numBytes?_exact_largest :
    ∃ n m, numBytes? ⟨0xffffffff, 0xffffffff, none, some .u8⟩ = some (.ok n) ∧
      n.toNat = 0xffffffff * 0xffffffff ∧
      FitsIn ⟨0xffffffff, 2, none, some .u8⟩ ⟨0xffffffff, 0xffffffff, none, some .u8⟩ ∧
      numBytes? ⟨0xffffffff, 2, none, some .u8⟩ = some (.ok m) ∧ m ≤ n := by
  have hfits : FitsIn ⟨0xffffffff, 2, none, some .u8⟩ ⟨0xffffffff, 0xffffffff, none, some .u8⟩ :=
    ⟨rfl, rfl, by decide, by decide⟩
  obtain ⟨hexact, hsize, -, hsmaller, -⟩ := numBytes?_exact
    (f := ⟨0xffffffff, 0xffffffff, none, some .u8⟩) (t := .u8) rfl
  obtain ⟨n, hn⟩ := hsize.2 (by decide)
  obtain ⟨m, hm, -, hle⟩ := hsmaller n hn _ hfits
  exact ⟨n, m, hn, (hexact n).1 hn, hfits, hm, hle⟩

/-- An image with four bytes for each pixel has no size if its sides are long enough, though a single
one of its pixels has one. -/
theorem numBytes?_overflows :
    numBytes? ⟨0x80000000, 0x80000000, some .rgba, some .u8⟩ = some (.error .product) ∧
      exactBytes ⟨0x80000000, 0x80000000, some .rgba, some .u8⟩ .u8 = UInt64.size ∧
      numBytes? ⟨1, 1, some .rgba, some .u8⟩ = some (.ok 4) :=
  ⟨rfl, rfl, rfl⟩

end ImageFormat

end Columnar
