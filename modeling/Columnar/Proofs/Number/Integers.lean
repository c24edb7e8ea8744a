import Columnar.Proofs.Number.Narrowing

/-!
# Integers in double precision

The greatest numbers of a format are far beyond its significand, so rounding a fraction of moderate
size gives a number and not an infinity. Integers of sixty-four bits are of that size.

## Main statements

- `BinaryFormat.roundMagnitude_lt_infinity`: rounding that stays finite.
- `Double.isFinite_ofInt`: integers of sixty-four bits are finite in double precision.
-/

namespace Columnar

namespace BinaryFormat

variable {f : BinaryFormat} {num den : ℕ}

theorem two_mul_leading (hf : 0 < f.precision) : 2 * f.leading = 2 ^ f.precision := by
  obtain ⟨p, hp⟩ : ∃ p, f.precision = p + 1 := ⟨f.precision - 1, by omega⟩
  show 2 * 2 ^ (f.precision - 1) = _
  rw [hp, Nat.add_sub_cancel, Nat.pow_succ, Nat.mul_comm]

theorem roundHalfEven_le (num den : ℕ) : roundHalfEven num den ≤ num / den + 1 := by
  unfold roundHalfEven
  dsimp only
  split <;> omega

/-- Scaled by the exponent that rounding takes, a fraction is less than a whole significand. -/
theorem divPow2_lt_two_mul_leading (hf : 0 < f.precision) (hnum : 0 < num) (hden : 0 < den) {q : ℤ}
    (hq : floorLog2 num den - ((f.precision - 1 : ℕ) : ℤ) ≤ q) :
    (divPow2 num den q).1 / (divPow2 num den q).2 < 2 * f.leading := by
  have hpos : 0 < (divPow2 num den q).2 := divPow2_den_pos hden q
  have hpos' : (0 : ℚ) < (divPow2 num den q).2 := by exact_mod_cast hpos
  have hscale : (0 : ℚ) < 2 ^ q := by positivity
  have hvalue : (num : ℚ) / den < 2 ^ f.precision * 2 ^ q := by
    calc (num : ℚ) / den < 2 ^ (floorLog2 num den + 1) := (floorLog2_spec hnum hden).2
      _ ≤ 2 ^ ((f.precision : ℤ) + q) := by
        refine zpow_le_zpow_right₀ (by norm_num) ?_
        omega
      _ = 2 ^ f.precision * 2 ^ q := by rw [zpow_add₀ (by norm_num), zpow_natCast]
  have hquotient : ((divPow2 num den q).1 : ℚ) / (divPow2 num den q).2 < 2 ^ f.precision := by
    rw [divPow2_value, div_lt_iff₀ hscale]
    exact hvalue
  rw [two_mul_leading hf, Nat.div_lt_iff_lt_mul hpos]
  rw [div_lt_iff₀ hpos'] at hquotient
  exact_mod_cast hquotient

/-- A fraction below a power of two is rounded to a number if the format has the exponents for
it. -/
theorem roundMagnitude_lt_infinity (hf : 0 < f.precision) (hden : 0 < den) {e : ℤ}
    (h : (num : ℚ) / den < 2 ^ e)
    (he : ((e - f.precision - f.minExponent).toNat + 2) * f.leading < f.infinity) :
    f.roundMagnitude num den < f.infinity := by
  rw [roundMagnitude]
  split
  · exact Nat.lt_of_le_of_lt (Nat.zero_le _) he
  · next hnum =>
    have hpos := Nat.pos_of_ne_zero hnum
    have hlog := floorLog2_lt hpos hden h
    obtain ⟨q, hq⟩ : ∃ q, q = max (floorLog2 num den - ((f.precision - 1 : ℕ) : ℤ))
        f.minExponent := ⟨_, rfl⟩
    have hlt := divPow2_lt_two_mul_leading hf hpos hden (q := q) (by omega)
    rw [← hq]
    dsimp only
    generalize divPow2 num den q = fraction at hlt ⊢
    obtain ⟨n, d⟩ := fraction
    have hround : roundHalfEven n d ≤ 2 * f.leading := by
      have hle := roundHalfEven_le n d
      simp only at hlt
      omega
    have hexponent : (q - f.minExponent).toNat ≤ (e - f.precision - f.minExponent).toNat := by
      omega
    refine Nat.lt_of_le_of_lt (Nat.min_le_left _ _) (Nat.lt_of_le_of_lt ?_ he)
    rw [Nat.add_mul]
    exact Nat.add_le_add (Nat.mul_le_mul_right _ hexponent) hround

end BinaryFormat

open BinaryFormat

namespace Double

theorem isFinite_ofMagnitude (negative : Bool) {magnitude : ℕ}
    (h : magnitude < BinaryFormat.double.infinity) :
    (ofMagnitude negative magnitude).isFinite = true := by
  have hsign : magnitude < BinaryFormat.double.signBit := h.trans (infinity_lt_signBit (by decide))
  rw [isFinite, decode, toNat_ofMagnitude negative hsign]
  simp only [BinaryFormat.decode, withSign_mod hsign, if_pos h]
  by_cases hbiased : magnitude / BinaryFormat.double.leading = 0
  · rw [if_pos hbiased]
  · rw [if_neg hbiased]

theorem isFinite_ofInt {i : ℤ} (hlow : -2 ^ 64 < i) (hhigh : i < 2 ^ 64) :
    (ofInt i).isFinite = true := by
  have hvalue : ((i.natAbs : ℕ) : ℚ) / (1 : ℕ) < 2 ^ (64 : ℤ) := by
    have hsize : i.natAbs < 2 ^ 64 := by omega
    rw [Nat.cast_one, div_one]
    exact_mod_cast hsize
  exact isFinite_ofMagnitude _
    (roundMagnitude_lt_infinity (by decide) Nat.one_pos hvalue (by decide))

end Double

end Columnar
