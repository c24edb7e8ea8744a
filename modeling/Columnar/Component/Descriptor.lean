/-!
# Descriptors

A descriptor says what a batch of values is: the component, and the archetype and field that the
values were given for. A component on its own has neither; the indicator of an archetype has no
field.

## Main definitions

- `Descriptor`: archetype, field and component.
- `Descriptor.text`: the name of a batch in tables and messages.
- `Descriptor.compare`, `Descriptor.sorted`: the order of descriptors, and a list in that order
  without repetitions.
- `shortName`: a name without its namespace.
-/

namespace Columnar

/-- A name without its namespace: what follows the last point. -/
def shortName (name : String) : String :=
  String.ofList (name.toList.reverse.takeWhile (· != '.')).reverse

structure Descriptor where
  archetype : Option String
  field : Option String
  component : String
deriving DecidableEq, Repr

namespace Descriptor

def bare (component : String) : Descriptor := ⟨none, none, component⟩

def forField (archetype field component : String) : Descriptor :=
  ⟨some archetype, some field, component⟩

def forIndicator (archetype component : String) : Descriptor := ⟨some archetype, none, component⟩

/-- Whether a descriptor marks an archetype and none of its fields. -/
def isIndicator (d : Descriptor) : Bool := d.archetype.isSome && d.field.isNone

def archetypeShortName? (d : Descriptor) : Option String := d.archetype.map shortName

/-- Archetype, colon, field, hash sign, component; what is absent goes with its mark. -/
def text (d : Descriptor) : String :=
  match d.archetype, d.field with
  | some archetype, some field => archetype ++ ":" ++ field ++ "#" ++ d.component
  | some archetype, none => archetype ++ "#" ++ d.component
  | none, some field => field ++ "#" ++ d.component
  | none, none => d.component

/-! ## Order -/

/-- Order of optional names: an absent one comes first. -/
def compareName? : Option String → Option String → Ordering
  | none, none => .eq
  | none, some _ => .lt
  | some _, none => .gt
  | some a, some b => Ord.compare a b

/-- By archetype, then field, then component; names are ordered by code points. -/
def compare (a b : Descriptor) : Ordering :=
  (compareName? a.archetype b.archetype).then
    ((compareName? a.field b.field).then (Ord.compare a.component b.component))

/-- A list without elements that equal the one before them. -/
def dropRepeats : List Descriptor → List Descriptor
  | [] => []
  | [d] => [d]
  | d :: e :: rest => if d = e then dropRepeats (e :: rest) else d :: dropRepeats (e :: rest)

def sorted (ds : List Descriptor) : List Descriptor :=
  dropRepeats (ds.mergeSort fun a b => compare a b != .gt)

end Descriptor

end Columnar
