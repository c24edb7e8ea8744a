import Columnar.Number.Shortest

/-!
# Decimal layouts

How the shortest decimal of a number is written out: with a point in its place or with an exponent.
The layouts in use are values of one record.

## Main definitions

- `DecimalLayout`: the choices that a written form makes.
- `DecimalLayout.json`, `.table`, `.tableSingle`, `.plain`: the layouts in use.
- `Double.write`, `Single.write`: a number in a layout.
-/

namespace Columnar

structure DecimalLayout where
  /-- Decimal exponents written with a point, from the first up to but without the second; `none`
  writes every number so. -/
  positional : Option (Int × Int)
  pointed : Bool
  signedExponent : Bool
deriving Repr

namespace DecimalLayout

/-- JSON texts: positional from `1e-5` up to `1e16`, exponents as `1e+16` and `1.5e-7`. -/
def json : DecimalLayout := ⟨some (-5, 16), true, true⟩

/-- Cells of a table with sixty-four-bit numbers: as `json`, but `1e16` has no sign. -/
def table : DecimalLayout := ⟨some (-5, 16), true, false⟩

/-- Cells of a table with thirty-two-bit numbers: positional from `1e-6` up to `1e13`. -/
def tableSingle : DecimalLayout := ⟨some (-6, 13), true, false⟩

/-- Messages: always positional, integral numbers without a point. -/
def plain : DecimalLayout := ⟨none, false, false⟩

def isPositional (l : DecimalLayout) (e : Int) : Bool :=
  match l.positional with
  | none => true
  | some (low, high) => decide (low ≤ e) && decide (e < high)

def zeros (n : Nat) : List Char := List.replicate n '0'

/-- Digits with a point in its place, for a number whose leading digit counts `10 ^ e` and whose
last one counts `10 ^ k`. -/
def point (l : DecimalLayout) (ds : List Char) (k e : Int) : List Char :=
  if 0 ≤ k then ds ++ zeros k.toNat ++ (if l.pointed then ['.', '0'] else [])
  else if 0 ≤ e then ds.take (e.toNat + 1) ++ '.' :: ds.drop (e.toNat + 1)
  else '0' :: '.' :: (zeros (-e - 1).toNat ++ ds)

def exponential (l : DecimalLayout) (ds : List Char) (e : Int) : List Char :=
  let fraction := ds.drop 1
  let mark := if fraction.isEmpty then [] else '.' :: fraction
  let sign := if 0 ≤ e then (if l.signedExponent then ['+'] else []) else ['-']
  ds.take 1 ++ mark ++ 'e' :: sign ++ (toString e.natAbs).toList

def write (l : DecimalLayout) (d : Decimal) : List Char :=
  if d.digits = 0 then (if l.pointed then ['0', '.', '0'] else ['0'])
  else
    let ds := Nat.toDigits 10 d.digits
    let e := d.exponent + (ds.length : Int) - 1
    if l.isPositional e then l.point ds d.exponent e else l.exponential ds e

def writeDecoded (l : DecimalLayout) (f : BinaryFormat) : Decoded → String
  | .finite negative m q =>
    let text := l.write (Decimal.ofScaled f m q)
    String.ofList (if negative then '-' :: text else text)
  | .infinite negative => if negative then "-inf" else "inf"
  | .nan _ _ => "NaN"

end DecimalLayout

def Double.write (l : DecimalLayout) (x : Double) : String := l.writeDecoded .double x.decode

def Single.write (l : DecimalLayout) (x : Single) : String := l.writeDecoded .single x.decode

end Columnar
