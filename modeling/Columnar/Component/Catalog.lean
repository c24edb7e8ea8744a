import Columnar.Component.Descriptor
import Columnar.Component.Encoding

/-!
# Components

A component gives a meaning to a type of values: its name is what the values are. Raw values are
taken in by the component's encoding, and what the encoding gives is checked against the type.

## Main definitions

- `Component`: name, type and encoding.
- `Component.convert`: a raw value as a series of the component's type.
- `Component.known`: the components of the catalog.
-/

namespace Columnar

structure Component where
  name : String
  type : DataType
  encoding : Encoding
deriving DecidableEq

namespace Component

def convert (c : Component) (input : Input) : Except Error Series := do
  let s ← c.encoding.encode input
  if s.type = c.type then .ok s
  else
    .error (.conversion c.name
      ("converter produced " ++ s.type.text ++ ", expected " ++ c.type.text))

def empty (c : Component) : Series := .empty c.type

/-! ## The catalog -/

def ofEncoding (name : String) (e : Encoding) : Component := ⟨name, e.type, e⟩

def scalar : Component := ofEncoding "arche.components.Scalar" .doubles

/-- Opacity of a layer, from transparent at zero to opaque at one. -/
def opacity : Component := ofEncoding "arche.components.Opacity" .singles

/-- Drawing order in the plane; what has a higher value is drawn on top. -/
def drawOrder : Component := ofEncoding "arche.components.DrawOrder" .singles

def radius : Component := ofEncoding "arche.components.Radius" .singles

def length : Component := ofEncoding "arche.components.Length" .singles

def imageBuffer : Component := ofEncoding "arche.components.ImageBuffer" .blobs

def imageFormat : Component := ofEncoding "arche.components.ImageFormat" .imageFormats

def translation3D : Component := ofEncoding "arche.components.Translation3D" .vectors

/-- A query for entities, with one rule in each element. -/
def queryExpression : Component := ofEncoding "arche.components.QueryExpression" .texts

def known : List Component :=
  [scalar, opacity, drawOrder, radius, length, imageBuffer, imageFormat, translation3D,
    queryExpression]

end Component

end Columnar
