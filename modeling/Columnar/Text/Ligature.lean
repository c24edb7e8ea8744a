import Columnar.Text.CharWidth

/-!
# Ligatures

Letters of some scripts that share their cells with a letter to their left. A ligature is read from
its end, so each of its steps is a letter that stands to the right of the character being looked at.

## Main definitions

- `Letter`: what a ligature can end in, as far as it has been read.
- `Letter.ofChar?`: the characters that a ligature ends in.
- `Letter.join?`: the character that goes on with a ligature.
-/

namespace Columnar.Text

def alefs : Array (Nat × Nat) := #[
  (0x622, 0x623), (0x625, 0x625), (0x627, 0x627), (0x671, 0x673), (0x675, 0x675), (0x773, 0x774),
  (0x870, 0x882)]

def lams : Array (Nat × Nat) := #[
  (0x644, 0x644), (0x6b5, 0x6b8), (0x76a, 0x76a), (0x8a6, 0x8a6), (0x8c7, 0x8c7)]

/-- Khmer letters that have a form below the letter before them, in order. -/
def subscripts : Array (Nat × Nat) := #[
  (0x1780, 0x1782), (0x1784, 0x1787), (0x1789, 0x178c), (0x178e, 0x1793), (0x1795, 0x1798),
  (0x179b, 0x179d), (0x17a0, 0x17a0), (0x17a2, 0x17a2), (0x17a7, 0x17a7), (0x17ab, 0x17ac),
  (0x17af, 0x17af)]

/-- Invisible characters that part the Arabic letters on their sides, in order. The others let them
join. -/
def parting : Array (Nat × Nat) := #[
  (0x605, 0x605), (0x890, 0x891), (0x8e2, 0x8e2), (0x9be, 0x9be), (0x9d7, 0x9d7), (0xb3e, 0xb3e),
  (0xb57, 0xb57), (0xbbe, 0xbbe), (0xbd7, 0xbd7), (0xcc0, 0xcc0), (0xcc2, 0xcc2), (0xcc7, 0xcc8),
  (0xcca, 0xccb), (0xcd5, 0xcd6), (0xd3e, 0xd3e), (0xd4e, 0xd4e), (0xd57, 0xd57), (0xdcf, 0xdcf),
  (0xddf, 0xddf), (0x1160, 0x11ff), (0x1715, 0x1715), (0x1734, 0x1734), (0x180e, 0x180e),
  (0x1b35, 0x1b35), (0x1b3b, 0x1b3b), (0x1b3d, 0x1b3d), (0x1b43, 0x1b44), (0x1baa, 0x1baa),
  (0x1bf2, 0x1bf3), (0x200c, 0x200d), (0x2065, 0x2069), (0x302e, 0x302f), (0x3164, 0x3164),
  (0xa8fa, 0xa8fa), (0xa953, 0xa953), (0xa9c0, 0xa9c0), (0xd7b0, 0xd7c6), (0xd7cb, 0xd7fb),
  (0xffa0, 0xffa0), (0xfff0, 0xfff8), (0x111c0, 0x111c0), (0x111c2, 0x111c3), (0x11235, 0x11235),
  (0x1133e, 0x1133e), (0x1134d, 0x1134d), (0x11357, 0x11357), (0x113b8, 0x113b8),
  (0x113c2, 0x113c2), (0x113c5, 0x113c5), (0x113c7, 0x113c9), (0x113cf, 0x113cf),
  (0x113d1, 0x113d1), (0x114b0, 0x114b0), (0x114bd, 0x114bd), (0x115af, 0x115af),
  (0x116b6, 0x116b6), (0x11930, 0x11930), (0x1193d, 0x1193d), (0x1193f, 0x1193f),
  (0x11941, 0x11941), (0x11a84, 0x11a89), (0x11d46, 0x11d46), (0x11f02, 0x11f02),
  (0x11f41, 0x11f41), (0x16ff0, 0x16ff1), (0x1d165, 0x1d166), (0x1d16d, 0x1d172),
  (0xe0000, 0xe0000), (0xe0002, 0xe001f), (0xe0080, 0xe00ff), (0xe01f0, 0xe0fff)]

/-- Invisible characters within a ligature: selectors of forms, and joiners, in order. -/
def withinLigatures : Array (Nat × Nat) := #[
  (0x34f, 0x34f), (0x17b4, 0x17b5), (0x180b, 0x180d), (0x180f, 0x180f), (0x200d, 0x200d),
  (0xfe00, 0xfe0f), (0xe0100, 0xe01ef)]

/-- Whether the Arabic letters on both sides of a character join through it. -/
def isTransparent (c : Char) : Bool := isInvisible c && !inRanges parting c.toNat

def isTifinagh (c : Char) : Bool := isBetween c 0x2d31 0x2d65 || c = '\u2d6f'

/-- The zero-width joiner, which asks for a ligature or for one emoji. -/
def joiner : Char := '\u200d'

inductive Letter where
  | alef
  | lamed
  | ya
  /-- A Buginese vowel sign joined to a ya, which joins a letter. -/
  | vowelYa
  | tifinagh
  /-- A Tifinagh letter after the sign that joins two of them. -/
  | joinedTifinagh
  /-- A Lisu tone letter of the second kind, which joins one of the first. -/
  | tone
  | orkhon
  | subscript
  deriving DecidableEq, Repr

def Letter.ofChar? (c : Char) : Option Letter :=
  if c = '\u05dc' then some .lamed
  else if inRanges alefs c.toNat then some .alef
  else if inRanges subscripts c.toNat then some .subscript
  else if c = '\u1a10' then some .ya
  else if isTifinagh c then some .tifinagh
  else if isBetween c 0xa4fc 0xa4fd then some .tone
  else if c.toNat = 0x10c03 then some .orkhon
  else none

/-- The cells of a character that goes on with a ligature, and what the ligature can go on with from
there; `linked` tells whether a joiner stands before the letter. -/
def Letter.join? (l : Letter) (linked : Bool) (c : Char) : Option (Int × Option Letter) :=
  match l with
  | .alef =>
    if inRanges lams c.toNat then some (0, none)
    else if isTransparent c then some (0, some .alef)
    else none
  | .lamed => if linked && c = '\u05d0' then some (0, none) else none
  | .ya => if linked && c = '\u1a17' then some (0, some .vowelYa) else none
  | .vowelYa => if c = '\u1a15' then some (0, none) else none
  | .tifinagh =>
    if c = '\u2d7f' then some (1, some .joinedTifinagh)
    else if linked && isTifinagh c then some (0, none)
    else none
  | .joinedTifinagh => if isTifinagh c then some (-1, none) else none
  | .tone => if isBetween c 0xa4f8 0xa4fb then some (0, none) else none
  | .orkhon => if linked && c.toNat = 0x10c32 then some (0, none) else none
  | .subscript => if c = '\u17d2' then some (-1, none) else none

end Columnar.Text
