import Columnar.Number.Format

/-!
# Floating-point numbers as bit patterns

Numbers are kept as their bit patterns, so that equality tells `0.0` from `-0.0` and one NaN from
another, and every operation is integer arithmetic on the pattern.

## Main definitions

- `Half`, `Single`, `Double`: numbers of sixteen, thirty-two and sixty-four bits.
- `Double.ofRatio`, `Double.ofInt`, `Double.ofDecimal`: the nearest `Double` to an exact number.
- `Double.toSingle`, `Single.toDouble`, `Half.toDouble`: conversions between the formats.
- `Double.div`, `Double.mul`, `Double.tenPow`: the arithmetic that unscaling a decimal takes.
-/

namespace Columnar

structure Half where
  bits : UInt16
deriving DecidableEq, Repr, Inhabited

structure Single where
  bits : UInt32
deriving DecidableEq, Repr, Inhabited

structure Double where
  bits : UInt64
deriving DecidableEq, Repr, Inhabited

namespace Half

def decode (x : Half) : Decoded := BinaryFormat.half.decode x.bits.toNat

def isNaN (x : Half) : Bool :=
  match x.decode with
  | .nan _ _ => true
  | _ => false

def toDouble (x : Half) : Double :=
  ⟨(BinaryFormat.half.convert .double x.bits.toNat).toUInt64⟩

end Half

namespace Single

def decode (x : Single) : Decoded := BinaryFormat.single.decode x.bits.toNat

def isFinite (x : Single) : Bool :=
  match x.decode with
  | .finite _ _ _ => true
  | _ => false

def isNaN (x : Single) : Bool :=
  match x.decode with
  | .nan _ _ => true
  | _ => false

def toDouble (x : Single) : Double :=
  ⟨(BinaryFormat.single.convert .double x.bits.toNat).toUInt64⟩

end Single

namespace Double

def decode (x : Double) : Decoded := BinaryFormat.double.decode x.bits.toNat

def isFinite (x : Double) : Bool :=
  match x.decode with
  | .finite _ _ _ => true
  | _ => false

def isNaN (x : Double) : Bool :=
  match x.decode with
  | .nan _ _ => true
  | _ => false

/-! ## Rounding exact numbers -/

def ofMagnitude (negative : Bool) (magnitude : Nat) : Double :=
  ⟨(BinaryFormat.double.withSign negative magnitude).toUInt64⟩

/-- The number nearest to `num / den`, negated if `negative`. -/
def ofRatio (negative : Bool) (num den : Nat) : Double :=
  ofMagnitude negative (BinaryFormat.double.roundMagnitude num den)

/-- The number nearest to an integer. Zero is positive. -/
def ofInt (i : Int) : Double := ofRatio (decide (i < 0)) i.natAbs 1

/-- The number nearest to `digits * 10 ^ exponent`. Exponents far outside the format's range are
settled without forming the power: every number below `10 ^ -400` rounds to zero, and every number
from `10 ^ 400` on is infinite. -/
def ofDecimal (negative : Bool) (digits : Nat) (exponent : Int) : Double :=
  if digits = 0 then ofMagnitude negative 0
  else
    let scale := exponent + (((Nat.toDigits 10 digits).length : Nat) : Int)
    if scale < -400 then ofMagnitude negative 0
    else if 400 < scale then ofMagnitude negative BinaryFormat.double.infinity
    else
      match exponent with
      | .ofNat n => ofRatio negative (digits * Nat.pow 10 n) 1
      | .negSucc n => ofRatio negative digits (Nat.pow 10 (n + 1))

/-! ## Conversion and arithmetic -/

/-- The `Single` nearest to `x`; a finite number beyond its range becomes infinite. -/
def toSingle (x : Double) : Single :=
  ⟨(BinaryFormat.double.convert .single x.bits.toNat).toUInt32⟩

/-- Quotient of a finite number by a finite number other than zero, rounded once. Any other
operands do not occur where decimals are unscaled; they give zero. -/
def div (x y : Double) : Double :=
  match x.decode, y.decode with
  | .finite s m p, .finite t n q =>
    if n = 0 then ⟨0⟩
    else
      let (num, den) := BinaryFormat.divPow2 m n (q - p)
      ofRatio (s != t) num den
  | _, _ => ⟨0⟩

/-- Product of two finite numbers, rounded once; zero for other operands. -/
def mul (x y : Double) : Double :=
  match x.decode, y.decode with
  | .finite s m p, .finite t n q =>
    let (num, den) := BinaryFormat.divPow2 (m * n) 1 (-(p + q))
    ofRatio (s != t) num den
  | _, _ => ⟨0⟩

/-- Multiplies `acc` by `base ^ n` by repeated squaring, rounding at each product. -/
def mulPow (acc base : Double) (n : Nat) : Double :=
  if n = 0 then acc
  else
    let acc := if n % 2 = 1 then acc.mul base else acc
    if n / 2 = 0 then acc else mulPow acc (base.mul base) (n / 2)
termination_by n

/-- The power of ten by repeated squaring; a negative power is a reciprocal. -/
def tenPow : Int → Double
  | .ofNat n => mulPow (ofInt 1) (ofInt 10) n
  | .negSucc n => (ofInt 1).div (mulPow (ofInt 1) (ofInt 10) (n + 1))

end Double

end Columnar
