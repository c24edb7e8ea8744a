import Columnar.Proofs.Number.Exact

/-!
# Thirty-two bits and sixty-four

Every number of thirty-two bits is one of sixty-four, so widening it loses nothing and narrowing it
again gives it back. The other way round a finite number may be beyond the range of thirty-two bits,
and what is narrowed then is an infinity.

## Main statements

- `BinaryFormat.exists_double_of_single`: the longer format has the numbers of the shorter one.
- `Single.isFinite_toDouble`, `Single.toSingle_toDouble`: widening, and narrowing again.
- `Double.Overflows`: the finite numbers that narrowing makes infinite.
- `Single.not_overflows`: no number that was widened is one of them.
- `Double.isFinite_of_toSingle`: nor is anything made finite by narrowing.
-/

namespace Columnar

namespace BinaryFormat

@[simp] theorem leading_single : single.leading = 2 ^ 23 := rfl
@[simp] theorem minExponent_single : single.minExponent = -149 := rfl
@[simp] theorem infinity_single : single.infinity = 255 * 2 ^ 23 := rfl
@[simp] theorem leading_double : double.leading = 2 ^ 52 := rfl
@[simp] theorem minExponent_double : double.minExponent = -1074 := rfl
@[simp] theorem infinity_double : double.infinity = 2047 * 2 ^ 52 := rfl
@[simp] theorem signBit_double : double.signBit = 2 ^ 63 := rfl

/-- In the longer format the significand is shifted until its leading bit is in place. -/
theorem exists_double_of_single {m : ℕ} {q : ℤ} (h : single.Keeps m q)
    (hfinite : single.pattern m q < single.infinity) :
    ∃ n e, double.Keeps n e ∧ double.pattern n e < double.infinity ∧
      (n : ℚ) * 2 ^ e = m * 2 ^ q := by
  have hlt := h.lt
  have hle := h.le
  rw [leading_single] at hlt
  rw [minExponent_single] at hle
  rw [pattern, minExponent_single, leading_single, infinity_single] at hfinite
  by_cases hm : m = 0
  · subst hm
    refine ⟨0, double.minExponent, ⟨by decide, le_rfl, .inr rfl⟩, by decide, ?_⟩
    simp
  · obtain ⟨k, hk⟩ : ∃ k, k = 52 - m.log2 := ⟨_, rfl⟩
    have hlog : m.log2 < 24 := (Nat.log2_lt hm).2 (by omega)
    have hlow : 2 ^ 52 ≤ m * 2 ^ k := by
      have hbits : 52 = m.log2 + k := by omega
      calc 2 ^ 52 = 2 ^ m.log2 * 2 ^ k := by rw [← Nat.pow_add, ← hbits]
        _ ≤ m * 2 ^ k := Nat.mul_le_mul_right _ (Nat.log2_self_le hm)
    have hhigh : m * 2 ^ k < 2 ^ 53 := by
      have hbits : 53 = m.log2 + 1 + k := by omega
      calc m * 2 ^ k < 2 ^ (m.log2 + 1) * 2 ^ k :=
            Nat.mul_lt_mul_of_pos_right Nat.lt_log2_self (Nat.two_pow_pos k)
        _ = 2 ^ 53 := by rw [← Nat.pow_add, ← hbits]
    refine ⟨m * 2 ^ k, q - k, ⟨hhigh, ?_, .inl hlow⟩, ?_, ?_⟩
    · rw [minExponent_double]
      omega
    · rw [pattern, minExponent_double, leading_double, infinity_double]
      have hexponent : (q - k - -1074).toNat ≤ 1178 := by omega
      calc (q - k - -1074).toNat * 2 ^ 52 + m * 2 ^ k < 1178 * 2 ^ 52 + 2 ^ 53 :=
            Nat.add_lt_add_of_le_of_lt (Nat.mul_le_mul_right _ hexponent) hhigh
        _ < 2047 * 2 ^ 52 := by decide
    · rw [zpow_sub₀ (by norm_num), zpow_natCast]
      push_cast
      field_simp

/-! ## What is no finite number -/

section

variable {source target f : BinaryFormat} {bits payload num den m : ℕ} {q : ℤ} {negative : Bool}

theorem roundMagnitude_le : f.roundMagnitude num den ≤ f.infinity := by
  rw [roundMagnitude]
  split
  · exact Nat.zero_le _
  · exact Nat.min_le_right _ _

theorem payload_lt (hf : 0 < f.precision) (h : f.decode bits = .nan negative payload) :
    payload < f.leading := by
  have hmod : bits % f.signBit < f.signBit := Nat.mod_lt _ (Nat.two_pow_pos _)
  have hsign := signBit_eq hf
  rw [decode] at h
  dsimp only at h
  split at h
  · split at h <;> cases h
  · split at h
    · cases h
    · cases h
      omega

/-- A payload that is aligned to another significand fits there, and it is not zero. -/
theorem quietPayload_lt (hs : 0 < source.precision) (ht : 2 ≤ target.precision)
    (h : payload < source.leading) :
    0 < source.quietPayload target payload ∧
      source.quietPayload target payload < target.leading := by
  have hquiet : 2 ^ (target.precision - 2) < 2 ^ (target.precision - 1) :=
    Nat.pow_lt_pow_right (by decide) (by omega)
  have haligned : payload * 2 ^ (target.precision - source.precision)
      / 2 ^ (source.precision - target.precision) < 2 ^ (target.precision - 1) := by
    have hbits : source.precision - 1 + (target.precision - source.precision) =
        target.precision - 1 + (source.precision - target.precision) := by omega
    rw [Nat.div_lt_iff_lt_mul (Nat.two_pow_pos _), ← Nat.pow_add, ← hbits, Nat.pow_add]
    exact Nat.mul_lt_mul_of_pos_right h (Nat.two_pow_pos _)
  refine ⟨?_, Nat.or_lt_two_pow haligned hquiet⟩
  exact Nat.lt_of_lt_of_le (Nat.two_pow_pos (target.precision - 2)) Nat.right_le_or

theorem withSign_lt {magnitude : ℕ} (h : magnitude < f.signBit) :
    f.withSign negative magnitude < 2 * f.signBit := by
  rw [withSign]
  split <;> omega

/-- What is carried over is a pattern of the other format. -/
theorem convert_lt (hs : 0 < source.precision) (ht : 2 ≤ target.precision) :
    source.convert target bits < 2 * target.signBit := by
  have hinfinity : target.infinity < target.signBit := infinity_lt_signBit (by omega)
  rw [convert]
  split
  · exact withSign_lt (Nat.lt_of_le_of_lt roundMagnitude_le hinfinity)
  · exact withSign_lt hinfinity
  · next hnan =>
    have hlt := (quietPayload_lt hs ht (payload_lt hs hnan)).2
    refine withSign_lt ?_
    rw [signBit_eq (by omega)]
    omega

/-- Only a finite number is carried over to one. -/
theorem exists_finite_of_convert (hs : 0 < source.precision) (ht : 2 ≤ target.precision)
    (h : target.decode (source.convert target bits) = .finite negative m q) :
    ∃ negative' m' q', source.decode bits = .finite negative' m' q' := by
  rw [convert] at h
  split at h
  · next hsource => exact ⟨_, _, _, hsource⟩
  · rw [decode_infinity (by omega)] at h
    cases h
  · next hnan =>
    obtain ⟨hpos, hlt⟩ := quietPayload_lt hs ht (payload_lt hs hnan)
    have hmagnitude := signBit_eq (f := target) (by omega)
    rw [decode_nan hpos (by omega)] at h
    cases h

end

end BinaryFormat

open BinaryFormat

namespace Double

theorem isFinite_iff {x : Double} :
    x.isFinite = true ↔ ∃ negative m q, x.decode = .finite negative m q := by
  rw [isFinite]
  cases x.decode <;> simp

theorem toNat_ofMagnitude (negative : Bool) {magnitude : ℕ}
    (h : magnitude < BinaryFormat.double.signBit) :
    (ofMagnitude negative magnitude).bits.toNat =
      BinaryFormat.double.withSign negative magnitude := by
  have hbits : BinaryFormat.double.withSign negative magnitude < 2 ^ 64 := by
    rw [withSign, signBit_double]
    rw [signBit_double] at h
    split <;> omega
  show (BinaryFormat.double.withSign negative magnitude).toUInt64.toNat = _
  rw [Nat.toUInt64, UInt64.toNat_ofNat']
  exact Nat.mod_eq_of_lt hbits

/-- A finite number that is infinite when it is narrowed. -/
def Overflows (x : Double) : Prop := x.isFinite = true ∧ x.toSingle.isFinite = false

instance (x : Double) : Decidable x.Overflows :=
  inferInstanceAs (Decidable (_ ∧ _))

end Double

namespace Single

theorem isFinite_iff {x : Single} :
    x.isFinite = true ↔ ∃ negative m q, x.decode = .finite negative m q := by
  rw [isFinite]
  cases x.decode <;> simp

variable {x : Single} {negative : Bool} {m : ℕ} {q : ℤ}

theorem decode_toDouble (x : Single) :
    x.toDouble.decode = double.decode (single.convert double x.bits.toNat) := by
  have hbits : single.convert double x.bits.toNat < 2 ^ 64 := convert_lt (by decide) (by decide)
  rw [Double.decode, toDouble, Nat.toUInt64, UInt64.toNat_ofNat', Nat.mod_eq_of_lt hbits]

/-- Reading a pattern that was widened gives the same number. -/
theorem exists_decode_toDouble (h : x.decode = .finite negative m q) :
    ∃ n e, x.toDouble.decode = .finite negative n e ∧ (n : ℚ) * 2 ^ e = m * 2 ^ q := by
  obtain ⟨hkeeps, hfinite, -⟩ := exists_of_decode (f := single) x.bits.toNat_lt h
  obtain ⟨n, e, hkeeps, hfinite, hvalue⟩ := exists_double_of_single hkeeps hfinite
  refine ⟨n, e, ?_, hvalue⟩
  rw [decode] at h
  rw [decode_toDouble, convert, h]
  show double.decode (double.withSign negative (double.roundScaled m q)) = _
  rw [roundScaled_of_value hkeeps hfinite hvalue.symm]
  exact decode_pattern (by decide) hkeeps hfinite

/-- Widening keeps finite numbers finite and any others not. -/
theorem isFinite_toDouble (x : Single) : x.toDouble.isFinite = x.isFinite := by
  rw [Bool.eq_iff_iff, Double.isFinite_iff, isFinite_iff]
  constructor
  · rintro ⟨negative, n, e, h⟩
    rw [decode_toDouble] at h
    exact exists_finite_of_convert (by decide) (by decide) h
  · rintro ⟨negative, m, q, h⟩
    obtain ⟨n, e, hdecode, -⟩ := exists_decode_toDouble h
    exact ⟨negative, n, e, hdecode⟩

/-- Narrowing gives back what was widened. Of a number that is none the payload may change. -/
theorem toSingle_toDouble (h : x.isFinite = true) : x.toDouble.toSingle = x := by
  rw [isFinite] at h
  split at h
  · next negative m q hx =>
    obtain ⟨n, e, hdecode, hvalue⟩ := exists_decode_toDouble hx
    obtain ⟨hkeeps, hfinite, hbits⟩ := exists_of_decode (f := single) x.bits.toNat_lt hx
    have hconvert : double.convert single x.toDouble.bits.toNat = x.bits.toNat := by
      rw [Double.decode] at hdecode
      rw [convert, hdecode, hbits]
      show single.withSign negative (single.roundScaled n e) = _
      rw [roundScaled_of_value hkeeps hfinite hvalue]
    rw [Double.toSingle, hconvert]
    exact congrArg Single.mk UInt32.ofNat_toNat
  · cases h

theorem not_overflows (x : Single) : ¬ x.toDouble.Overflows := by
  rintro ⟨hwide, hnarrow⟩
  rw [isFinite_toDouble] at hwide
  rw [toSingle_toDouble hwide, hwide] at hnarrow
  cases hnarrow

end Single

namespace Double

theorem decode_toSingle (x : Double) :
    x.toSingle.decode = single.decode (double.convert single x.bits.toNat) := by
  have hbits : double.convert single x.bits.toNat < 2 ^ 32 := convert_lt (by decide) (by decide)
  rw [Single.decode, toSingle, Nat.toUInt32, UInt32.toNat_ofNat', Nat.mod_eq_of_lt hbits]

/-- Narrowing makes nothing finite. -/
theorem isFinite_of_toSingle {x : Double} (h : x.toSingle.isFinite = true) :
    x.isFinite = true := by
  obtain ⟨negative, m, q, hdecode⟩ := Single.isFinite_iff.1 h
  rw [decode_toSingle] at hdecode
  exact isFinite_iff.2 (exists_finite_of_convert (by decide) (by decide) hdecode)

end Double

end Columnar
