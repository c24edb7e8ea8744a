import Columnar.Text.Emoji
import Columnar.Text.Ligature

/-!
# Display width

How many cells of a terminal a text takes. Characters that form an emoji or a ligature share their
cells, and a selector changes the form, and so the cells, of the character before it. A text is
therefore read from its end: what a character takes hangs on what stands to its right.

## Main definitions

- `Trail`, `Right`: what a character finds to its right.
- `place`: the cells of a character, given what stands to its right.
- `width`: cells of a text.
-/

namespace Columnar.Text

/-- The form that a selector asks for of the character before it. -/
inductive Selector where
  | picture
  | sign
  | full
  deriving DecidableEq, Repr

def Selector.ofChar? (c : Char) : Option Selector :=
  if c = '\ufe0f' then some .picture
  else if c = '\ufe0e' then some .sign
  else if c = '\ufe01' then some .full
  else none

/-- What stands to the right of a character, as far as its cells hang on it. -/
inductive Trail where
  | plain
  | lineFeed
  /-- A letter that may end a ligature, and whether a joiner stands before it. -/
  | letter (l : Letter) (linked : Bool)
  /-- The Kirat Rai vowel sign E, a part of longer vowel signs. -/
  | vowelE
  /-- The Kirat Rai vowel sign AI, or two signs that make it. -/
  | vowelAi
  | picture
  | tone
  | flagLetter
  /-- At least two letters of flags. -/
  | flagLetters
  /-- A joiner before an emoji. -/
  | joined
  /-- A joiner before an emoji, and the frame of a key before that. -/
  | framed
  /-- A joiner before an emoji, and one letter of a flag before that. -/
  | joinedLetter
  /-- A joiner before an emoji, and whole flags before that. -/
  | joinedFlags
  /-- A joiner before an emoji, and before that whole flags and one more letter. -/
  | joinedOdd
  /-- A joiner before an emoji, and before that an end tag and some letters of a region. -/
  | tagLetters (count : Nat)
  /-- A joiner before an emoji, and before that an end tag and some digits of a region. -/
  | tagDigits (count : Nat)
  deriving DecidableEq, Repr

/-- What is left of the right-hand side behind a selector, which parts all but ligatures. The
selector of pictures does not part an emoji from a joiner. -/
def Trail.behind : Trail → Selector → Trail
  | .letter l linked, _ => .letter l linked
  | .joined, .picture => .joined
  | .framed, .picture => .framed
  | _, _ => .plain

structure Right where
  trail : Trail
  selector : Option Selector
  deriving DecidableEq, Repr

def Right.nothing : Right := ⟨.plain, none⟩

def Trail.ofChar (c : Char) : Trail :=
  if c.toNat ≤ 0xa0 then if c = '\n' then .lineFeed else .plain
  else if c.toNat = 0x16d67 then .vowelE
  else if c.toNat = 0x16d68 then .vowelAi
  else if isFlagLetter c then .flagLetter
  else if isTone c then .tone
  else if isPicture c then .picture
  else
    match Letter.ofChar? c with
    | some l => .letter l false
    | none => .plain

def joinLetter? (l : Letter) (linked : Bool) (c : Char) : Option (Int × Trail) :=
  if l ≠ .alef && c = joiner then some (0, .letter l true)
  else if l ≠ .alef && inRanges withinLigatures c.toNat then some (0, .letter l linked)
  else
    (l.join? linked c).map fun (cells, next) =>
      (cells, next.elim .plain fun l => .letter l false)

def Trail.join? (t : Trail) (c : Char) : Option (Int × Trail) :=
  match t with
  | .plain => none
  | .lineFeed => if c = '\r' then some (0, .plain) else none
  | .letter l linked => joinLetter? l linked c
  | .vowelE =>
    if c.toNat = 0x16d63 || c.toNat = 0x16d69 then some (0, .plain)
    else if c.toNat = 0x16d67 then some (0, .vowelAi)
    else if c.toNat = 0x16d68 then some (1, .vowelE)
    else none
  | .vowelAi => if c.toNat = 0x16d63 then some (0, .plain) else none
  | .picture => if c = joiner then some (0, .joined) else none
  | .tone =>
    if c = joiner then some (0, .joined)
    else if takesTone c then some (0, .picture)
    else none
  | .flagLetter => if isFlagLetter c then some (1, .flagLetters) else none
  | .flagLetters =>
    if c = joiner then some (0, .joined)
    else if isFlagLetter c then some (1, .flagLetters)
    else none
  | .joined =>
    if c = '\u20e3' then some (0, .framed)
    else if isFlagLetter c then some (1, .joinedLetter)
    else if isTone c then some (0, .tone)
    else if c.toNat = 0xe007f then some (0, .tagLetters 0)
    else if isPicture c then some (0, .picture)
    else none
  | .framed => none
  | .joinedLetter => if isFlagLetter c then some (-1, .joinedFlags) else none
  | .joinedFlags =>
    if c = joiner then some (0, .joined)
    else if isFlagLetter c then some (3, .joinedOdd)
    else none
  | .joinedOdd =>
    if c = joiner then some (0, .joined)
    else if isFlagLetter c then some (-1, .joinedFlags)
    else none
  | .tagLetters n =>
    if isTagLetter c && n < 6 then some (0, .tagLetters (n + 1))
    else if isTagDigit c && n < 5 then some (0, .tagDigits 1)
    else if c.toNat = 0x1f3f4 && 3 ≤ n then some (0, .picture)
    else none
  | .tagDigits n =>
    if isTagDigit c && n < 3 then some (0, .tagDigits (n + 1))
    else if c.toNat = 0x1f3f4 && n = 3 then some (0, .picture)
    else none

def isQuotationMark (c : Char) : Bool :=
  c = '\u2018' || c = '\u2019' || c = '\u201c' || c = '\u201d'

/-- The cells of a character that has the form that the selector to its right asks for, and what it
leaves. A picture that is joined to an emoji shares the emoji's cells. -/
def Right.chosen? (right : Right) (c : Char) : Option (Int × Right) :=
  match right.selector with
  | none => none
  | some .picture =>
    if hasTwoForms c then
      some (if right.trail = .joined || right.trail = .framed then 0 else 2, ⟨.picture, none⟩)
    else none
  | some .sign => if hasSignForm c then some (1, .nothing) else none
  | some .full => if isQuotationMark c then some (2, .nothing) else none

def Right.unselected (right : Right) : Trail :=
  match right.selector, right.trail with
  | none, t => t
  | some _, .letter l linked => .letter l linked
  | some _, _ => .plain

def place (c : Char) (right : Right) : Int × Right :=
  match right.chosen? c with
  | some placed => placed
  | none =>
    match Selector.ofChar? c with
    | some s => (0, ⟨right.unselected.behind s, some s⟩)
    | none =>
      match right.unselected.join? c with
      | some (cells, trail) => (cells, ⟨trail, none⟩)
      | none => (charWidth c, ⟨.ofChar c, none⟩)

def measure (cs : List Char) : Int × Right :=
  cs.foldr
    (fun c (cells, right) =>
      let (more, right) := place c right
      (cells + more, right))
    (0, .nothing)

def width (cs : List Char) : Nat := (measure cs).1.toNat

end Columnar.Text
