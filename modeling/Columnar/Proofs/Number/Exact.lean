import Columnar.Number.Binary
import Mathlib.Algebra.Order.Field.Power
import Mathlib.Data.Rat.Cast.Order
import Mathlib.Tactic.FieldSimp
import Mathlib.Tactic.Positivity
import Mathlib.Tactic.Ring

/-!
# Numbers that a format keeps exactly

A format keeps a number in one way: with as many bits as its significand has, unless the number is
so small that its exponent is the least. The pattern of such a number is what reading takes apart,
and rounding a fraction that equals the number gives this pattern, however the fraction is written.

## Main statements

- `BinaryFormat.Keeps`, `BinaryFormat.pattern`: the numbers of a format and their patterns.
- `BinaryFormat.decode_pattern`, `BinaryFormat.exists_of_decode`: patterns and finite numbers are in
  one to one correspondence.
- `BinaryFormat.roundMagnitude_of_value`, `BinaryFormat.roundScaled_of_value`: a number of the
  format is rounded to itself.
-/

namespace Columnar

namespace BinaryFormat

/-- A format has the number `m * 2 ^ q` with this significand and this exponent. -/
structure Keeps (f : BinaryFormat) (m : ℕ) (q : ℤ) : Prop where
  lt : m < 2 * f.leading
  le : f.minExponent ≤ q
  leading : f.leading ≤ m ∨ q = f.minExponent

/-- The pattern of `m * 2 ^ q`, apart from the sign. The leading bit of the significand, if it is
there, counts for the exponent. -/
def pattern (f : BinaryFormat) (m : ℕ) (q : ℤ) : ℕ := (q - f.minExponent).toNat * f.leading + m

variable {f : BinaryFormat} {m num den : ℕ} {q : ℤ} {negative : Bool}

/-! ## Patterns -/

theorem leading_pos (f : BinaryFormat) : 0 < f.leading := Nat.two_pow_pos _

theorem signBit_eq (hf : 0 < f.precision) : f.signBit = f.infinity + f.leading := by
  have hbits : f.exponentBits + f.precision - 1 = f.exponentBits + (f.precision - 1) := by
    omega
  have hexponent : 2 ^ f.exponentBits - 1 + 1 = 2 ^ f.exponentBits :=
    Nat.sub_add_cancel Nat.one_le_two_pow
  show 2 ^ (f.exponentBits + f.precision - 1) =
    (2 ^ f.exponentBits - 1) * 2 ^ (f.precision - 1) + 2 ^ (f.precision - 1)
  rw [← Nat.succ_mul, Nat.succ_eq_add_one, hexponent, hbits, Nat.pow_add]

theorem infinity_lt_signBit (hf : 0 < f.precision) : f.infinity < f.signBit := by
  have hpos := f.leading_pos
  rw [signBit_eq hf]
  omega

theorem withSign_mod {magnitude : ℕ} (h : magnitude < f.signBit) :
    f.withSign negative magnitude % f.signBit = magnitude := by
  cases negative with
  | false => exact Nat.mod_eq_of_lt h
  | true => exact (Nat.add_mod_left _ _).trans (Nat.mod_eq_of_lt h)

theorem decide_le_withSign {magnitude : ℕ} (h : magnitude < f.signBit) :
    decide (f.signBit ≤ f.withSign negative magnitude) = negative := by
  cases negative with
  | false => exact decide_eq_false (Nat.not_le.2 h)
  | true => exact decide_eq_true (Nat.le_add_right _ _)

theorem withSign_decide {bits : ℕ} (h : bits < 2 * f.signBit) :
    f.withSign (decide (f.signBit ≤ bits)) (bits % f.signBit) = bits := by
  by_cases hbits : f.signBit ≤ bits
  · have hrest : bits % f.signBit = bits - f.signBit := by
      rw [Nat.mod_eq_sub_mod hbits, Nat.mod_eq_of_lt (by omega)]
    rw [decide_eq_true hbits, hrest]
    exact Nat.add_sub_of_le hbits
  · rw [decide_eq_false hbits]
    exact Nat.mod_eq_of_lt (Nat.lt_of_not_le hbits)

theorem decode_infinity (hf : 0 < f.precision) :
    f.decode (f.withSign negative f.infinity) = .infinite negative := by
  have h := infinity_lt_signBit hf
  simp only [decode, withSign_mod h, decide_le_withSign h, lt_irrefl, if_false, if_true]

theorem decode_nan {payload : ℕ} (hpos : 0 < payload) (h : f.infinity + payload < f.signBit) :
    f.decode (f.withSign negative (f.infinity + payload)) = .nan negative payload := by
  have hfinite : ¬ f.infinity + payload < f.infinity := by omega
  have hinfinite : f.infinity + payload ≠ f.infinity := by omega
  simp only [decode, withSign_mod h, decide_le_withSign h, if_neg hfinite, if_neg hinfinite,
    Nat.add_sub_cancel_left]

/-- Reading the pattern of a number gives its significand and its exponent. -/
theorem decode_pattern (hf : 0 < f.precision) (h : f.Keeps m q)
    (hfinite : f.pattern m q < f.infinity) :
    f.decode (f.withSign negative (f.pattern m q)) = .finite negative m q := by
  have hbits := hfinite.trans (infinity_lt_signBit hf)
  have hpos := f.leading_pos
  simp only [decode, withSign_mod hbits, decide_le_withSign hbits, if_pos hfinite]
  by_cases hm : f.leading ≤ m
  · -- The leading bit of the significand is carried into the exponent.
    have hlt := h.lt
    have hcarry : f.pattern m q =
        (m - f.leading) + f.leading * ((q - f.minExponent).toNat + 1) := by
      rw [pattern, Nat.mul_add, Nat.mul_one, Nat.mul_comm f.leading]
      omega
    have hfraction : m - f.leading < f.leading := by omega
    rw [hcarry, Nat.add_mul_div_left _ _ hpos, Nat.add_mul_mod_self_left,
      Nat.div_eq_of_lt hfraction, Nat.mod_eq_of_lt hfraction, if_neg (by omega),
      Nat.sub_add_cancel hm]
    have hq := h.le
    congr 1
    omega
  · obtain rfl := h.leading.resolve_left hm
    have hsmall : m < f.leading := Nat.lt_of_not_le hm
    have hpattern : f.pattern m f.minExponent = m := by
      simp [pattern]
    rw [hpattern, Nat.div_eq_of_lt hsmall, Nat.mod_eq_of_lt hsmall, if_pos rfl]

/-- A pattern that is read as a finite number is the pattern of this number. -/
theorem exists_of_decode {bits : ℕ} (hbits : bits < 2 * f.signBit)
    (h : f.decode bits = .finite negative m q) :
    f.Keeps m q ∧ f.pattern m q < f.infinity ∧ bits = f.withSign negative (f.pattern m q) := by
  have hpos := f.leading_pos
  have hdiv := Nat.div_add_mod (bits % f.signBit) f.leading
  have hfraction := Nat.mod_lt (bits % f.signBit) hpos
  suffices hkeeps : f.Keeps m q ∧ f.pattern m q = bits % f.signBit ∧
      bits % f.signBit < f.infinity ∧ decide (f.signBit ≤ bits) = negative by
    obtain ⟨hkeeps, hpattern, hfinite, hsign⟩ := hkeeps
    refine ⟨hkeeps, by rwa [hpattern], ?_⟩
    rw [hpattern, ← hsign, withSign_decide hbits]
  simp only [decode] at h
  split at h
  · next hfinite =>
    split at h
    · next hbiased =>
      cases h
      rw [hbiased, Nat.mul_zero, Nat.zero_add] at hdiv
      refine ⟨⟨by omega, le_rfl, .inr rfl⟩, ?_, hfinite, rfl⟩
      simpa [pattern] using hdiv
    · next hbiased =>
      cases h
      refine ⟨⟨by omega, by omega, .inl (by omega)⟩, ?_, hfinite, rfl⟩
      rw [pattern, add_sub_cancel_left, Int.toNat_natCast, Nat.sub_mul, Nat.one_mul]
      have hone : f.leading ≤ bits % f.signBit / f.leading * f.leading :=
        Nat.le_mul_of_pos_left _ (Nat.pos_of_ne_zero hbiased)
      rw [Nat.mul_comm] at hdiv
      omega
  · split at h <;> cases h

/-! ## Fractions -/

theorem divPow2_den_pos (h : 0 < den) (q : ℤ) : 0 < (divPow2 num den q).2 := by
  cases q with
  | ofNat n => exact Nat.mul_pos h (Nat.two_pow_pos n)
  | negSucc n => exact h

theorem divPow2_value (num den : ℕ) (q : ℤ) :
    ((divPow2 num den q).1 : ℚ) / (divPow2 num den q).2 = num / den / 2 ^ q := by
  cases q with
  | ofNat n =>
    show (num : ℚ) / ((den * 2 ^ n : ℕ) : ℚ) = _
    rw [Int.ofNat_eq_natCast, zpow_natCast, div_div]
    push_cast
    rfl
  | negSucc n =>
    show ((num * 2 ^ (n + 1) : ℕ) : ℚ) / den = _
    rw [zpow_negSucc, div_inv_eq_mul]
    push_cast
    ring

/-- The power of two below a fraction. -/
theorem floorLog2_spec (hnum : 0 < num) (hden : 0 < den) :
    (2 : ℚ) ^ floorLog2 num den ≤ num / den ∧ (num : ℚ) / den < 2 ^ (floorLog2 num den + 1) := by
  have hden' : (0 : ℚ) < den := by exact_mod_cast hden
  have htwo : (2 : ℚ) ≠ 0 := by norm_num
  obtain ⟨e, he⟩ : ∃ e : ℤ, e = (num.log2 : ℤ) - (den.log2 : ℤ) := ⟨_, rfl⟩
  -- The lengths of numerator and denominator give the exponent up to one.
  have hlow : (2 : ℚ) ^ (e - 1) ≤ num / den := by
    have hn : ((2 ^ num.log2 : ℕ) : ℚ) ≤ num := by
      exact_mod_cast Nat.log2_self_le (Nat.ne_of_gt hnum)
    have hd : (den : ℚ) ≤ ((2 ^ (den.log2 + 1) : ℕ) : ℚ) := by
      exact_mod_cast Nat.le_of_lt Nat.lt_log2_self
    have hpow : (2 : ℚ) ^ (e - 1) * ((2 ^ (den.log2 + 1) : ℕ) : ℚ) = ((2 ^ num.log2 : ℕ) : ℚ) := by
      push_cast
      rw [← zpow_natCast, ← zpow_natCast, ← zpow_add₀ htwo]
      congr 1
      omega
    rw [le_div_iff₀ hden']
    calc (2 : ℚ) ^ (e - 1) * den ≤ 2 ^ (e - 1) * ((2 ^ (den.log2 + 1) : ℕ) : ℚ) := by gcongr
      _ = ((2 ^ num.log2 : ℕ) : ℚ) := hpow
      _ ≤ num := hn
  have hhigh : (num : ℚ) / den < 2 ^ (e + 1) := by
    have hn : (num : ℚ) < ((2 ^ (num.log2 + 1) : ℕ) : ℚ) := by
      exact_mod_cast Nat.lt_log2_self
    have hd : ((2 ^ den.log2 : ℕ) : ℚ) ≤ den := by
      exact_mod_cast Nat.log2_self_le (Nat.ne_of_gt hden)
    have hpow : (2 : ℚ) ^ (e + 1) * ((2 ^ den.log2 : ℕ) : ℚ) = ((2 ^ (num.log2 + 1) : ℕ) : ℚ) := by
      push_cast
      rw [← zpow_natCast, ← zpow_natCast, ← zpow_add₀ htwo]
      congr 1
      omega
    rw [div_lt_iff₀ hden']
    calc (num : ℚ) < ((2 ^ (num.log2 + 1) : ℕ) : ℚ) := hn
      _ = 2 ^ (e + 1) * ((2 ^ den.log2 : ℕ) : ℚ) := hpow.symm
      _ ≤ 2 ^ (e + 1) * den := by gcongr
  have hcompare : (divPow2 num den e).2 ≤ (divPow2 num den e).1 ↔ (2 : ℚ) ^ e ≤ num / den := by
    have hpos : (0 : ℚ) < (divPow2 num den e).2 := by exact_mod_cast divPow2_den_pos hden e
    have hscale : (0 : ℚ) < 2 ^ e := by positivity
    rw [← one_le_div hscale, ← divPow2_value, one_le_div hpos, Nat.cast_le]
  have hfloor : floorLog2 num den = if (divPow2 num den e).2 ≤ (divPow2 num den e).1 then e
      else e - 1 := by
    rw [he]
    rfl
  rw [hfloor]
  split
  · next h => exact ⟨hcompare.1 h, hhigh⟩
  · next h =>
    rw [Int.sub_add_cancel]
    exact ⟨hlow, lt_of_not_ge (mt hcompare.2 h)⟩

theorem le_floorLog2 (hnum : 0 < num) (hden : 0 < den) {e : ℤ} (h : (2 : ℚ) ^ e ≤ num / den) :
    e ≤ floorLog2 num den := by
  have hlt := h.trans_lt (floorLog2_spec hnum hden).2
  have hexp : e < floorLog2 num den + 1 := (zpow_lt_zpow_iff_right₀ (by norm_num)).1 hlt
  omega

theorem floorLog2_lt (hnum : 0 < num) (hden : 0 < den) {e : ℤ} (h : (num : ℚ) / den < 2 ^ e) :
    floorLog2 num den < e :=
  (zpow_lt_zpow_iff_right₀ (by norm_num)).1 ((floorLog2_spec hnum hden).1.trans_lt h)

theorem roundHalfEven_of_value (hden : 0 < den) (h : (num : ℚ) / den = m) :
    roundHalfEven num den = m := by
  have hden' : (den : ℚ) ≠ 0 := by exact_mod_cast Nat.ne_of_gt hden
  have hnum : num = m * den := by
    rw [div_eq_iff hden'] at h
    exact_mod_cast h
  have hhalf : ¬ (den < 2 * (num % den) ∨ 2 * (num % den) = den ∧ num / den % 2 = 1) := by
    rw [hnum, Nat.mul_mod_left]
    omega
  rw [roundHalfEven, if_neg hhalf, hnum, Nat.mul_div_cancel _ hden]

/-! ## Rounding -/

/-- Rounding looks for the bits of a number of the format where they are. -/
theorem exponent_of_value (h : f.Keeps m q) (hnum : 0 < num) (hden : 0 < den)
    (hvalue : (num : ℚ) / den = m * 2 ^ q) :
    max (floorLog2 num den - ((f.precision - 1 : ℕ) : ℤ)) f.minExponent = q := by
  obtain ⟨p, hp⟩ : ∃ p, p = f.precision - 1 := ⟨_, rfl⟩
  have hleading : f.leading = 2 ^ p := by
    rw [hp]
    rfl
  have hscale : (0 : ℚ) < 2 ^ q := by positivity
  have hpow : ∀ n : ℕ, (2 : ℚ) ^ ((n : ℤ) + q) = ((2 ^ n : ℕ) : ℚ) * 2 ^ q := by
    intro n
    rw [zpow_add₀ (by norm_num), zpow_natCast]
    push_cast
    rfl
  have hq := h.le
  have hhigh : floorLog2 num den < ((p + 1 : ℕ) : ℤ) + q := by
    refine floorLog2_lt hnum hden ?_
    have hm : m < 2 ^ (p + 1) := by
      have hlt := h.lt
      rw [Nat.pow_succ]
      omega
    rw [hvalue, hpow]
    gcongr
  rw [← hp]
  rcases h.leading with hm | hmin
  · have hlow : (p : ℤ) + q ≤ floorLog2 num den := by
      refine le_floorLog2 hnum hden ?_
      rw [hleading] at hm
      rw [hvalue, hpow]
      gcongr
    omega
  · omega

/-- A fraction that is a number of the format is rounded to this number. -/
theorem roundMagnitude_of_value (h : f.Keeps m q) (hfinite : f.pattern m q < f.infinity)
    (hden : 0 < den)
    (hvalue : (num : ℚ) / den = m * 2 ^ q) : f.roundMagnitude num den = f.pattern m q := by
  have hscale : (2 : ℚ) ^ q ≠ 0 := by positivity
  have hden' : (den : ℚ) ≠ 0 := by exact_mod_cast Nat.ne_of_gt hden
  rw [roundMagnitude]
  split
  · next hnum =>
    have hm : m = 0 := by
      rw [hnum, Nat.cast_zero, zero_div, eq_comm, mul_eq_zero] at hvalue
      exact_mod_cast hvalue.resolve_right hscale
    have hpos := f.leading_pos
    obtain rfl := h.leading.resolve_left (by omega)
    simp [pattern, hm]
  · next hnum =>
    rw [exponent_of_value h (Nat.pos_of_ne_zero hnum) hden hvalue]
    have hround : roundHalfEven (divPow2 num den q).1 (divPow2 num den q).2 = m := by
      refine roundHalfEven_of_value (divPow2_den_pos hden q) ?_
      rw [divPow2_value, hvalue, mul_div_cancel_right₀ _ hscale]
    dsimp only
    generalize divPow2 num den q = fraction at hround ⊢
    obtain ⟨n, d⟩ := fraction
    show min ((q - f.minExponent).toNat * f.leading + roundHalfEven n d) f.infinity = _
    rw [hround]
    exact Nat.min_eq_left (Nat.le_of_lt hfinite)

/-- A significand and an exponent that make a number of the format, in whatever way, are rounded to
this number. -/
theorem roundScaled_of_value (h : f.Keeps m q) (hfinite : f.pattern m q < f.infinity)
    {n : ℕ} {e : ℤ} (hvalue : (n : ℚ) * 2 ^ e = m * 2 ^ q) :
    f.roundScaled n e = f.pattern m q := by
  have hden : 0 < (divPow2 n 1 (-e)).2 := divPow2_den_pos Nat.one_pos (-e)
  have hfraction := divPow2_value n 1 (-e)
  rw [Nat.cast_one, div_one, zpow_neg, div_inv_eq_mul, hvalue] at hfraction
  exact roundMagnitude_of_value h hfinite hden hfraction

end BinaryFormat

end Columnar
