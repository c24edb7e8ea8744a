import Columnar.Component.Catalog
import Columnar.Record.Batch

/-!
# Archetypes

An archetype names the fields that a record has and the component of each.

## Main definitions

- `FieldSpec`, `Archetype`: a field, and the fields of a record in order.
- `Archetype.fieldIndex?`, `Archetype.field?`: the field of a name.
- `Archetype.descriptor`, `Archetype.emptyBatch`: descriptor and empty batch of a field.
- `Archetype.indicatorBatch`: the batch that marks a record of the archetype.
-/

namespace Columnar

structure FieldSpec where
  name : String
  component : Component
  doc : String
deriving DecidableEq

structure Archetype where
  name : String
  /-- Name of the component that marks the archetype. -/
  indicator : String
  doc : String
  fields : List FieldSpec
deriving DecidableEq

namespace Archetype

def shortName (a : Archetype) : String := Columnar.shortName a.name

def fieldIndex? (a : Archetype) (name : String) : Option (Fin a.fields.length) :=
  a.fields.findFinIdx? fun f => f.name == name

def field? (a : Archetype) (name : String) : Option FieldSpec :=
  a.fields.find? fun f => f.name == name

def descriptor (a : Archetype) (f : FieldSpec) : Descriptor :=
  .forField a.name f.name f.component.name

def fieldDescriptors (a : Archetype) : List Descriptor := a.fields.map a.descriptor

def indicatorDescriptor (a : Archetype) : Descriptor := .forIndicator a.name a.indicator

def indicatorBatch (a : Archetype) : Batch := .indicator a.indicatorDescriptor

def emptyBatch (a : Archetype) (f : FieldSpec) : Batch := ⟨a.descriptor f, f.component.empty⟩

end Archetype

end Columnar
