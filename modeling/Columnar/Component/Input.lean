import Columnar.Data.Vector
import Columnar.Image.Format
import Columnar.Json.Printer

/-!
# Input

A raw value given for a field: a JSON value or a series, neither checked yet.

## Main definitions

- `Input`: the two forms.
- `Input.preview`: a short text of the value for messages.
- `Input.ofSeries`: a series without more.
- `Input.ofBytes`, `Input.ofVectors`, `Input.ofFormat`: values of the library's own types.
-/

namespace Columnar

inductive Input where
  | json (v : Json.Value)
  /-- A series, and for lists of a fixed size the items beyond the last whole list. -/
  | series (s : Series) (surplus : List Cell)

namespace Input

/-- A text, or so many of its first characters and three points. -/
def shorten (limit : Nat) (text : String) : String :=
  if text.length ≤ limit then text else String.ofList (text.toList.take limit) ++ "..."

/-- A short text of the value: JSON up to so many characters, or type and length of a series. -/
def preview (limit : Nat) : Input → String
  | .json v => shorten limit v.compact
  | .series s _ => "<" ++ s.type.text ++ " array of " ++ toString s.length ++ " values>"

def ofSeries (s : Series) : Input := .series s []

def ofDoubles (xs : List Double) : Input := ofSeries (.doubles xs)
def ofSingles (xs : List Single) : Input := ofSeries (.singles xs)
def ofTexts (xs : List String) : Input := ofSeries (.texts xs)

/-- Bytes are one blob. -/
def ofBytes (bytes : List UInt8) : Input := ofSeries (.blobs [bytes])

def ofVectors (vs : List Vec3) : Input := ofSeries (Vec3.series vs)

def ofFormat (format : ImageFormat) : Input := ofSeries (ImageFormat.series [format])

end Input

end Columnar
