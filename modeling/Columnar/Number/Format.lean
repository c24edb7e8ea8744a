/-!
# Binary floating-point formats

The interchange formats of sixteen, thirty-two and sixty-four bits differ only in how many bits
their significand and their exponent have, so one description serves all three.

## Main definitions

- `BinaryFormat`: precision and exponent width of a format.
- `BinaryFormat.decode`: the sign, significand and exponent that a bit pattern stands for.
- `BinaryFormat.roundMagnitude`: the pattern of the number nearest to a fraction, ties to even.
- `BinaryFormat.convert`: a pattern of one format carried over to another.
-/

namespace Columnar

structure BinaryFormat where
  /-- Bits of the significand, its leading one included. -/
  precision : Nat
  exponentBits : Nat
deriving DecidableEq, Repr

inductive Decoded where
  /-- The number `significand * 2 ^ exponent`, negated if `negative`. -/
  | finite (negative : Bool) (significand : Nat) (exponent : Int)
  | infinite (negative : Bool)
  | nan (negative : Bool) (payload : Nat)
deriving DecidableEq, Repr

namespace BinaryFormat

/-! ## Parameters -/

def half : BinaryFormat := ⟨11, 5⟩
def single : BinaryFormat := ⟨24, 8⟩
def double : BinaryFormat := ⟨53, 11⟩

def bias (f : BinaryFormat) : Nat := Nat.pow 2 (f.exponentBits - 1) - 1

def minExponent (f : BinaryFormat) : Int := 2 - ((f.bias + f.precision : Nat) : Int)

def leading (f : BinaryFormat) : Nat := Nat.pow 2 (f.precision - 1)

def infinity (f : BinaryFormat) : Nat := (Nat.pow 2 f.exponentBits - 1) * f.leading

def signBit (f : BinaryFormat) : Nat := Nat.pow 2 (f.exponentBits + f.precision - 1)

/-! ## Reading a pattern -/

def decode (f : BinaryFormat) (bits : Nat) : Decoded :=
  let negative := f.signBit ≤ bits
  let magnitude := bits % f.signBit
  if magnitude < f.infinity then
    let biased := magnitude / f.leading
    let fraction := magnitude % f.leading
    if biased = 0 then .finite negative fraction f.minExponent
    else .finite negative (fraction + f.leading) (f.minExponent + ((biased - 1 : Nat) : Int))
  else if magnitude = f.infinity then .infinite negative
  else .nan negative (magnitude - f.infinity)

/-! ## Rounding -/

/-- The integer nearest to `num / den`; a half goes to the even neighbour. -/
def roundHalfEven (num den : Nat) : Nat :=
  let floor := num / den
  let rest := num % den
  if den < 2 * rest ∨ (2 * rest = den ∧ floor % 2 = 1) then floor + 1 else floor

/-- `num / den` divided by `2 ^ q`, again as a fraction. -/
def divPow2 (num den : Nat) : Int → Nat × Nat
  | .ofNat n => (num, den * Nat.pow 2 n)
  | .negSucc n => (num * Nat.pow 2 (n + 1), den)

/-- The largest `e` with `2 ^ e ≤ num / den`, for positive `num` and `den`. -/
def floorLog2 (num den : Nat) : Int :=
  let e : Int := (num.log2 : Int) - (den.log2 : Int)
  let (n, d) := divPow2 num den e
  if d ≤ n then e else e - 1

/-- Pattern of the number nearest to `num / den`, ties to even. The pattern counts numbers upward
from zero, so a carry out of the significand moves on to the next exponent by itself. -/
def roundMagnitude (f : BinaryFormat) (num den : Nat) : Nat :=
  if num = 0 then 0
  else
    let q := max (floorLog2 num den - ((f.precision - 1 : Nat) : Int)) f.minExponent
    let (n, d) := divPow2 num den q
    min ((q - f.minExponent).toNat * f.leading + roundHalfEven n d) f.infinity

def withSign (f : BinaryFormat) (negative : Bool) (magnitude : Nat) : Nat :=
  if negative then f.signBit + magnitude else magnitude

def roundScaled (f : BinaryFormat) (significand : Nat) (exponent : Int) : Nat :=
  let (n, d) := divPow2 significand 1 (-exponent)
  f.roundMagnitude n d

/-- Aligns the payload of a NaN to the leading bits of another significand and makes it quiet. -/
def quietPayload (source target : BinaryFormat) (payload : Nat) : Nat :=
  (payload * Nat.pow 2 (target.precision - source.precision)
    / Nat.pow 2 (source.precision - target.precision)) ||| Nat.pow 2 (target.precision - 2)

/-- The pattern in `target` of what `bits` stands for in `source`, rounded if need be. -/
def convert (source target : BinaryFormat) (bits : Nat) : Nat :=
  match source.decode bits with
  | .finite negative m q => target.withSign negative (target.roundScaled m q)
  | .infinite negative => target.withSign negative target.infinity
  | .nan negative payload =>
    target.withSign negative (target.infinity + source.quietPayload target payload)

end BinaryFormat

end Columnar
