import Columnar.Number.Binary

/-!
# Shortest decimals

The decimal with the fewest digits that reads back as a given floating-point number, and of those
the nearest to it. All tests are exact comparisons of natural numbers.

## Main definitions

- `Decimal`: digits and a power of ten.
- `Bracket`: a number together with the interval of reals that round to it.
- `Bracket.shortest`: the shortest decimal within the interval.
-/

namespace Columnar

/-- The number `digits * 10 ^ exponent`. -/
structure Decimal where
  digits : Nat
  exponent : Int
deriving DecidableEq, Repr

/-- A positive number `value / unit` and the ends `low / unit` and `high / unit` of the interval of
reals that round to it. -/
structure Bracket where
  low : Nat
  value : Nat
  high : Nat
  unit : Nat
  /-- Whether the two ends round to the number themselves: ties go to an even significand. -/
  closed : Bool
deriving Repr

namespace Bracket

/-- The bracket of `m * 2 ^ q`, measured in quarters of the last place. Below a power of two the
numbers lie twice as dense, so the lower half of the interval is half as wide there. -/
def ofScaled (f : BinaryFormat) (m : Nat) (q : Int) : Bracket :=
  let below := if m = f.leading ∧ q ≠ f.minExponent then 1 else 2
  match q - 2 with
  | .ofNat n =>
    ⟨(4 * m - below) * Nat.pow 2 n, 4 * m * Nat.pow 2 n, (4 * m + 2) * Nat.pow 2 n, 1, m % 2 == 0⟩
  | .negSucc n => ⟨4 * m - below, 4 * m, 4 * m + 2, Nat.pow 2 (n + 1), m % 2 == 0⟩

def decimalLength (n : Nat) : Nat := (Nat.toDigits 10 n).length

/-- The largest `e` with `10 ^ e ≤ value / unit`. -/
def floorLog10 (b : Bracket) : Int :=
  if b.unit ≤ b.value then (decimalLength (b.value / b.unit) : Int) - 1
  else -(decimalLength ((b.unit + b.value - 1) / b.value - 1) : Int)

/-- Factors `(up, down)` such that a numerator `x` of the bracket and the grid point `c * 10 ^ k`
compare as `x * up` and `c * down`. -/
def gridFactors (b : Bracket) : Int → Nat × Nat
  | .ofNat k => (1, b.unit * Nat.pow 10 k)
  | .negSucc k => (Nat.pow 10 (k + 1), b.unit)

def contains (b : Bracket) (k : Int) (c : Nat) : Bool :=
  let (up, down) := b.gridFactors k
  if b.closed then decide (b.low * up ≤ c * down) && decide (c * down ≤ b.high * up)
  else decide (b.low * up < c * down) && decide (c * down < b.high * up)

/-- Of the two neighbours of the number on the grid of `10 ^ k`, the one that rounds to it; the
nearer if both do, and the even one if they are equally near. -/
def onGrid? (b : Bracket) (k : Int) : Option Nat :=
  let (up, down) := b.gridFactors k
  let c := b.value * up / down
  match b.contains k c, b.contains k (c + 1) with
  | false, false => none
  | true, false => some c
  | false, true => some (c + 1)
  | true, true =>
    let below := b.value * up - c * down
    let above := (c + 1) * down - b.value * up
    if below < above ∨ (below = above ∧ c % 2 = 0) then some c else some (c + 1)

/-- Tries the grids of `count`, `count + 1`, … digits, at most `fuel` of them. -/
def search (b : Bracket) (top : Int) (count : Nat) : Nat → Decimal
  | 0 => ⟨0, 0⟩
  | fuel + 1 =>
    let k := top - (count : Int) + 1
    match b.onGrid? k with
    | some c => ⟨c, k⟩
    | none => search b top (count + 1) fuel

/-- The shortest decimal that reads back as the number. Seventeen digits always suffice for
sixty-four bits. -/
def shortest (b : Bracket) : Decimal := b.search b.floorLog10 1 17

end Bracket

namespace Decimal

/-- Removes zeros at the end of the digits, at most `fuel` of them. -/
def trim : Nat → Decimal → Decimal
  | 0, d => d
  | fuel + 1, d =>
    if d.digits ≠ 0 ∧ d.digits % 10 = 0 then trim fuel ⟨d.digits / 10, d.exponent + 1⟩ else d

def ofScaled (f : BinaryFormat) (m : Nat) (q : Int) : Decimal :=
  if m = 0 then ⟨0, 0⟩ else trim 20 (Bracket.ofScaled f m q).shortest

end Decimal

end Columnar
