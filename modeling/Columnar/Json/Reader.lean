import Columnar.Json.Value
import Columnar.Text.Digits

/-!
# Reading JSON

A text is read byte by byte. A refusal names the first defect and where it was noticed: a line, and
a column that counts bytes. Some defects are noticed when the offending byte has been consumed and
some when it has only been looked at; both count that byte. Values may be nested to a limit, and of
several entries of an object with one key the last one counts.

## Main definitions

- `Defect`, `Fault`: what is wrong, and after which byte.
- `readNumber`, `readString`, `readValue`: the parts of a text. Each returns the bytes that follow,
  with the proof that some were consumed.
- `Value.read`: a whole text.
-/

namespace Columnar.Json

/-! ## Refusals -/

inductive Defect where
  | endInList
  | endInObject
  | endInString
  | endInValue
  | colonExpected
  | listCommaOrEndExpected
  | objectCommaOrEndExpected
  | wordExpected
  | valueExpected
  | badEscape
  | badNumber
  | numberOutOfRange
  | controlCharacter
  | keyExpected
  | loneSurrogate
  | trailingComma
  | trailingCharacters
  | escapeCutShort
  | tooDeep
deriving DecidableEq, Repr

def Defect.message : Defect → String
  | .endInList => "EOF while parsing a list"
  | .endInObject => "EOF while parsing an object"
  | .endInString => "EOF while parsing a string"
  | .endInValue => "EOF while parsing a value"
  | .colonExpected => "expected `:`"
  | .listCommaOrEndExpected => "expected `,` or `]`"
  | .objectCommaOrEndExpected => "expected `,` or `\x7d`"
  | .wordExpected => "expected ident"
  | .valueExpected => "expected value"
  | .badEscape => "invalid escape"
  | .badNumber => "invalid number"
  | .numberOutOfRange => "number out of range"
  | .controlCharacter =>
    "control character (\\u0000-\\u001F) found while parsing a string"
  | .keyExpected => "key must be a string"
  | .loneSurrogate => "lone leading surrogate in hex escape"
  | .trailingComma => "trailing comma"
  | .trailingCharacters => "trailing characters"
  | .escapeCutShort => "unexpected end of hex escape"
  | .tooDeep => "recursion limit exceeded"

/-- A defect, and how many bytes of the text follow the place where it was noticed. -/
structure Fault where
  defect : Defect
  after : Nat
deriving DecidableEq, Repr

abbrev Bytes := List UInt8

/-- A value of type `α` and the bytes that follow it, fewer than there were. -/
abbrev Read (α : Type) (s : Bytes) := Except Fault (α × { r : Bytes // r.length < s.length })

/-- A defect noticed with `rest` still to be read. -/
def faultAt {α : Type} (defect : Defect) (rest : Bytes) : Except Fault α :=
  .error ⟨defect, rest.length⟩

/-- A defect noticed by looking at the first byte of `rest`. -/
def faultOn {α : Type} (defect : Defect) (rest : Bytes) : Except Fault α :=
  .error ⟨defect, rest.length - 1⟩

/-! ## Blanks and words -/

def isBlankByte (b : UInt8) : Bool := b == 0x20 || b == 0x0a || b == 0x09 || b == 0x0d

def skipBlanks (s : Bytes) : Bytes := s.dropWhile isBlankByte

theorem length_skipBlanks_le (s : Bytes) : (skipBlanks s).length ≤ s.length :=
  List.Sublist.length_le (List.dropWhile_sublist _)

/-- Reads the rest of a word whose first letter has been consumed. -/
def readWord : (word s : Bytes) → Except Fault { r : Bytes // r.length ≤ s.length }
  | [], s => .ok ⟨s, Nat.le_refl _⟩
  | _ :: _, [] => faultAt .endInValue []
  | w :: word, b :: s =>
    if b = w then
      match readWord word s with
      | .ok ⟨r, h⟩ => .ok ⟨r, Nat.le_succ_of_le h⟩
      | .error e => .error e
    else faultAt .wordExpected s

/-! ## Numbers -/

def isDigitByte (b : UInt8) : Bool := decide (0x30 ≤ b) && decide (b ≤ 0x39)

def digitValue (b : UInt8) : Nat := b.toNat - 0x30

def appendDigits (acc : Nat) (digits : Bytes) : Nat :=
  digits.foldl (fun n b => n * 10 + digitValue b) acc

theorem length_dropWhile_le (p : UInt8 → Bool) (s : Bytes) : (s.dropWhile p).length ≤ s.length :=
  List.Sublist.length_le (List.dropWhile_sublist _)

/-- Exponents up to this one are computed; digits beyond it decide between zero and too large. -/
def maxExponent : Nat := 0x7fffffff

/-- Digits of an exponent: its value and what follows, or, if it passes the largest exponent, what
follows the digit with which it does. -/
def readExponentDigits : (acc : Nat) → Bytes → Bytes ⊕ (Nat × Bytes)
  | acc, [] => .inr (acc, [])
  | acc, b :: s =>
    if isDigitByte b then
      let n := acc * 10 + digitValue b
      if maxExponent < n then .inl s else readExponentDigits n s
    else .inr (acc, b :: s)

/-- A number with a fraction or an exponent, which has to be finite. -/
def realNumber (negative : Bool) (digits : Nat) (exponent : Int) (rest : Bytes) :
    Except Fault (Number × Bytes) :=
  let x := Double.ofDecimal negative digits exponent
  if h : x.isFinite = true then .ok (.real x h, rest) else faultAt .numberOutOfRange rest

/-- What follows the exponent mark of a number with these digits, scaled by `10 ^ scale`. -/
def readExponent (negative : Bool) (digits : Nat) (scale : Int) (s : Bytes) :
    Except Fault (Number × Bytes) :=
  let (down, s) :=
    match s with
    | 0x2b :: r => (false, r)
    | 0x2d :: r => (true, r)
    | r => (false, r)
  match s with
  | [] => faultAt .endInValue []
  | b :: r =>
    if isDigitByte b then
      match readExponentDigits (digitValue b) r with
      | .inr (n, rest) =>
        realNumber negative digits (if down then scale - (n : Int) else scale + (n : Int)) rest
      | .inl rest =>
        if digits ≠ 0 ∧ down = false then faultAt .numberOutOfRange rest
        else realNumber negative 0 0 (rest.dropWhile isDigitByte)
    else faultAt .badNumber r

/-- What follows the integral digits of a number. An integer within sixty-four bits stays one;
`-0` and larger ones become floating-point numbers. -/
def readFraction (negative : Bool) (digits : Nat) (s : Bytes) : Except Fault (Number × Bytes) :=
  match s with
  | 0x2e :: r =>
    let fraction := r.takeWhile isDigitByte
    let rest := r.dropWhile isDigitByte
    if fraction.isEmpty then
      match r with
      | [] => faultAt .endInValue []
      | _ => faultOn .badNumber r
    else
      let digits := appendDigits digits fraction
      let scale : Int := -(fraction.length : Int)
      match rest with
      | 0x65 :: r => readExponent negative digits scale r
      | 0x45 :: r => readExponent negative digits scale r
      | _ => realNumber negative digits scale rest
  | 0x65 :: r => readExponent negative digits 0 r
  | 0x45 :: r => readExponent negative digits 0 r
  | _ =>
    if negative then
      if digits ≠ 0 ∧ digits ≤ 0x8000000000000000 then .ok (.int (-(digits : Int)), s)
      else realNumber true digits 0 s
    else if digits ≤ Text.maxUnsigned then .ok (.int digits, s)
    else realNumber false digits 0 s

/-- A number whose sign, if any, has been consumed. No digit may follow a leading zero. -/
def readNumber (negative : Bool) (s : Bytes) : Except Fault (Number × Bytes) :=
  match s with
  | [] => faultAt .endInValue []
  | b :: r =>
    if b = 0x30 then
      match r with
      | c :: _ => if isDigitByte c then faultOn .badNumber r else readFraction negative 0 r
      | [] => readFraction negative 0 r
    else if isDigitByte b then
      readFraction negative (appendDigits 0 (s.takeWhile isDigitByte)) (s.dropWhile isDigitByte)
    else faultAt .badNumber r

/-! ## Strings -/

def hexValue? (b : UInt8) : Option Nat :=
  if isDigitByte b then some (digitValue b)
  else if 0x61 ≤ b ∧ b ≤ 0x66 then some (b.toNat - 0x61 + 10)
  else if 0x41 ≤ b ∧ b ≤ 0x46 then some (b.toNat - 0x41 + 10)
  else none

def readHex : (s : Bytes) → Read Nat s
  | a :: b :: c :: d :: r =>
    match hexValue? a, hexValue? b, hexValue? c, hexValue? d with
    | some a, some b, some c, some d =>
      .ok (((a * 16 + b) * 16 + c) * 16 + d, ⟨r, by simp only [List.length_cons]; omega⟩)
    | _, _, _, _ => faultAt .badEscape r
  | _ => faultAt .endInString []

def encodeScalar (n : Nat) : Bytes := String.utf8EncodeChar (Char.ofNat n)

/-- What follows `\u`: a character, or the two halves of one beyond the basic plane. -/
def readUnicode (s : Bytes) : Read Bytes s :=
  match readHex s with
  | .error e => .error e
  | .ok (n, ⟨r, h⟩) =>
    if 0xdc00 ≤ n ∧ n ≤ 0xdfff then faultAt .loneSurrogate r
    else if n < 0xd800 ∨ 0xdbff < n then .ok (encodeScalar n, ⟨r, h⟩)
    else
      match r, h with
      | [], _ => faultAt .endInString []
      | b :: r, h =>
        if b ≠ 0x5c then faultAt .escapeCutShort r
        else
          match r, h with
          | [], _ => faultAt .endInString []
          | c :: r, h =>
            if c ≠ 0x75 then faultAt .escapeCutShort r
            else
              match readHex r with
              | .error e => .error e
              | .ok (m, ⟨r', h'⟩) =>
                if m < 0xdc00 ∨ 0xdfff < m then faultAt .loneSurrogate r'
                else
                  .ok (encodeScalar (0x10000 + (n - 0xd800) * 0x400 + (m - 0xdc00)),
                    ⟨r', by simp only [List.length_cons] at h; omega⟩)

def readEscape : (s : Bytes) → Read Bytes s
  | [] => faultAt .endInString []
  | b :: r =>
    let plain (c : UInt8) : Read Bytes (b :: r) := .ok ([c], ⟨r, Nat.lt_succ_self _⟩)
    if b = 0x22 ∨ b = 0x5c ∨ b = 0x2f then plain b
    else if b = 0x62 then plain 0x08
    else if b = 0x66 then plain 0x0c
    else if b = 0x6e then plain 0x0a
    else if b = 0x72 then plain 0x0d
    else if b = 0x74 then plain 0x09
    else if b = 0x75 then
      match readUnicode r with
      | .ok (bytes, ⟨r', h⟩) => .ok (bytes, ⟨r', Nat.lt_succ_of_lt h⟩)
      | .error e => .error e
    else faultAt .badEscape r

/-- Bytes that stand for themselves within a string. -/
def isPlainByte (b : UInt8) : Bool := b != 0x22 && b != 0x5c && decide (0x20 ≤ b)

/-- The rest of a string after its opening quote; `acc` holds its bytes so far, the last first. -/
def readStringBytes (acc : Bytes) (s : Bytes) : Read Bytes s :=
  let acc := (s.takeWhile isPlainByte).reverse ++ acc
  have hs := length_dropWhile_le isPlainByte s
  match s.dropWhile isPlainByte, hs with
  | [], _ => faultAt .endInString []
  | b :: r, hs =>
    if b = 0x22 then .ok (acc.reverse, ⟨r, hs⟩)
    else if b = 0x5c then
      match readEscape r with
      | .error e => .error e
      | .ok (bytes, ⟨r', h⟩) =>
        match readStringBytes (bytes.reverse ++ acc) r' with
        | .error e => .error e
        | .ok (text, ⟨r'', h'⟩) =>
          .ok (text, ⟨r'', by simp only [List.length_cons] at hs; omega⟩)
    else faultAt .controlCharacter r
termination_by s.length
decreasing_by simp only [List.length_cons] at hs; omega

/-- The text of a sequence of bytes. Those of a string are well formed if the whole text is. -/
def decodeText (bytes : Bytes) : String := (String.fromUTF8? ⟨bytes.toArray⟩).getD ""

def readString (s : Bytes) : Read String s :=
  match readStringBytes [] s with
  | .ok (bytes, r) => .ok (decodeText bytes, r)
  | .error e => .error e

/-! ## Values -/

/-- Sets the entry of a key. Keys are kept in the order of their bytes. -/
def insertEntry (key : String) (v : Value) : List (String × Value) → List (String × Value)
  | [] => [(key, v)]
  | (k, w) :: rest =>
    if key = k then (key, v) :: rest
    else if key < k then (key, v) :: (k, w) :: rest
    else (k, w) :: insertEntry key v rest

def readItems (item : (s : Bytes) → Read Value s) (acc : List Value) (s : Bytes) :
    Read (List Value) s :=
  match item s with
  | .error e => .error e
  | .ok (v, ⟨r, h⟩) =>
    have hr := length_skipBlanks_le r
    match skipBlanks r, hr with
    | [], _ => faultAt .endInList []
    | b :: t, hr =>
      if b = 0x5d then
        .ok ((v :: acc).reverse, ⟨t, by simp only [List.length_cons] at hr; omega⟩)
      else if b = 0x2c then
        have ht := length_skipBlanks_le t
        match skipBlanks t, ht with
        | [], _ => faultAt .endInValue []
        | c :: u, ht =>
          if c = 0x5d then faultOn .trailingComma (c :: u)
          else
            match readItems item (v :: acc) (c :: u) with
            | .error e => .error e
            | .ok (items, ⟨r', h'⟩) =>
              .ok (items, ⟨r', by simp only [List.length_cons] at hr ht h'; omega⟩)
      else faultOn .listCommaOrEndExpected (b :: t)
termination_by s.length
decreasing_by simp only [List.length_cons] at hr ht ⊢; omega

def readEntry (item : (s : Bytes) → Read Value s) (s : Bytes) : Read (String × Value) s :=
  match s with
  | [] => faultAt .endInObject []
  | b :: r =>
    if b ≠ 0x22 then faultOn .keyExpected (b :: r)
    else
      match readString r with
      | .error e => .error e
      | .ok (key, ⟨r', h⟩) =>
        have hr := length_skipBlanks_le r'
        match skipBlanks r', hr with
        | [], _ => faultAt .endInObject []
        | c :: t, hr =>
          if c = 0x3a then
            match item t with
            | .error e => .error e
            | .ok (v, ⟨r'', h'⟩) =>
              .ok ((key, v), ⟨r'', by simp only [List.length_cons] at hr ⊢; omega⟩)
          else faultOn .colonExpected (c :: t)

def readEntries (item : (s : Bytes) → Read Value s) (acc : List (String × Value)) (s : Bytes) :
    Read (List (String × Value)) s :=
  match readEntry item s with
  | .error e => .error e
  | .ok ((key, v), ⟨r, h⟩) =>
    have hr := length_skipBlanks_le r
    match skipBlanks r, hr with
    | [], _ => faultAt .endInObject []
    | b :: t, hr =>
      if b = 0x7d then
        .ok (insertEntry key v acc, ⟨t, by simp only [List.length_cons] at hr; omega⟩)
      else if b = 0x2c then
        have ht := length_skipBlanks_le t
        match skipBlanks t, ht with
        | [], _ => faultAt .endInValue []
        | c :: u, ht =>
          if c = 0x7d then faultOn .trailingComma (c :: u)
          else
            match readEntries item (insertEntry key v acc) (c :: u) with
            | .error e => .error e
            | .ok (entries, ⟨r', h'⟩) =>
              .ok (entries, ⟨r', by simp only [List.length_cons] at hr ht h'; omega⟩)
      else faultOn .objectCommaOrEndExpected (b :: t)
termination_by s.length
decreasing_by simp only [List.length_cons] at hr ht ⊢; omega

/-- Keeps what was read before the bytes of a shorter text. -/
def Read.weaken {α : Type} {s t : Bytes} (h : t.length ≤ s.length) (x : Read α t) : Read α s :=
  match x with
  | .ok (a, ⟨r, hr⟩) => .ok (a, ⟨r, Nat.lt_of_lt_of_le hr h⟩)
  | .error e => .error e

def readList (item : (s : Bytes) → Read Value s) (s : Bytes) : Read Value s :=
  have hs := length_skipBlanks_le s
  match skipBlanks s, hs with
  | [], _ => faultAt .endInList []
  | b :: r, hs =>
    if b = 0x5d then .ok (.array [], ⟨r, hs⟩)
    else
      match readItems item [] (b :: r) with
      | .ok (items, ⟨r', h⟩) => .ok (.array items, ⟨r', Nat.lt_of_lt_of_le h hs⟩)
      | .error e => .error e

def readObject (item : (s : Bytes) → Read Value s) (s : Bytes) : Read Value s :=
  have hs := length_skipBlanks_le s
  match skipBlanks s, hs with
  | [], _ => faultAt .endInObject []
  | b :: r, hs =>
    if b = 0x7d then .ok (.object [], ⟨r, hs⟩)
    else
      match readEntries item [] (b :: r) with
      | .ok (entries, ⟨r', h⟩) => .ok (.object entries, ⟨r', Nat.lt_of_lt_of_le h hs⟩)
      | .error e => .error e

def readConstant (word : Bytes) (v : Value) (b : UInt8) (s : Bytes) : Read Value (b :: s) :=
  match readWord word s with
  | .ok ⟨r, h⟩ => .ok (v, ⟨r, Nat.lt_succ_of_le h⟩)
  | .error e => .error e

def readNumberValue (negative : Bool) (digits s : Bytes) : Read Value s :=
  match readNumber negative digits with
  | .ok (n, r) => if h : r.length < s.length then .ok (.number n, ⟨r, h⟩) else faultAt .badNumber r
  | .error e => .error e

/-- A value within which `depth` levels of lists and objects may be opened. -/
def readValue : (depth : Nat) → (s : Bytes) → Read Value s
  | depth, s =>
    Read.weaken (length_skipBlanks_le s) <|
      match skipBlanks s with
      | [] => faultAt .endInValue []
      | b :: r =>
        if b = 0x6e then readConstant [0x75, 0x6c, 0x6c] .null b r
        else if b = 0x74 then readConstant [0x72, 0x75, 0x65] (.bool true) b r
        else if b = 0x66 then readConstant [0x61, 0x6c, 0x73, 0x65] (.bool false) b r
        else if b = 0x2d then readNumberValue true r (b :: r)
        else if isDigitByte b then readNumberValue false (b :: r) (b :: r)
        else if b = 0x22 then
          match readString r with
          | .ok (text, ⟨r', h⟩) => .ok (.string text, ⟨r', Nat.lt_succ_of_lt h⟩)
          | .error e => .error e
        else if b = 0x5b then
          match depth with
          | 0 => faultOn .tooDeep (b :: r)
          | depth + 1 => Read.weaken (Nat.le_succ _) (readList (readValue depth) r)
        else if b = 0x7b then
          match depth with
          | 0 => faultOn .tooDeep (b :: r)
          | depth + 1 => Read.weaken (Nat.le_succ _) (readObject (readValue depth) r)
        else faultOn .valueExpected (b :: r)

def maxDepth : Nat := 127

/-! ## Whole texts -/

structure Position where
  line : Nat
  column : Nat
deriving DecidableEq, Repr

/-- The line and the column of the place before which `consumed` stands. -/
def Position.after (consumed : Bytes) : Position :=
  let last := consumed.reverse.takeWhile (· ≠ 0x0a)
  ⟨1 + consumed.count 0x0a, last.length⟩

structure Refusal where
  defect : Defect
  position : Position
deriving DecidableEq, Repr

def Refusal.message (r : Refusal) : String :=
  r.defect.message ++ " at line " ++ toString r.position.line
    ++ " column " ++ toString r.position.column

def Value.read (s : Bytes) : Except Refusal Value :=
  let place (f : Fault) : Refusal := ⟨f.defect, Position.after (s.take (s.length - f.after))⟩
  match readValue maxDepth s with
  | .error e => .error (place e)
  | .ok (v, ⟨r, _⟩) =>
    match skipBlanks r with
    | [] => .ok v
    | _ :: t => .error (place ⟨.trailingCharacters, t.length⟩)

end Columnar.Json
