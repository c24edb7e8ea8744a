import Columnar.Image.Format
import Columnar.Json.Printer

/-!
# Reading image formats

A format is read from a JSON object of its members, or from a list of them in order. The first
member at fault is reported; that one is missing is noticed last.

## Main definitions

- `ImageFormat.Fault`: what is wrong with a value.
- `readSize`, `readName`, `readOptional`: the members.
- `ImageFormat.read`: a format.
-/

namespace Columnar.ImageFormat

/-! ## Faults -/

inductive Fault where
  | wrongKind (found expected : String)
  | wrongValue (found expected : String)
  | wrongLength (count : Nat) (expected : String)
  | unknownMember (name : String)
  | unknownName (name : String) (known : List String)
  | missingMember (name : String)
deriving DecidableEq, Repr

def ticked (name : String) : String := "`" ++ name ++ "`"

def Fault.message : Fault → String
  | .wrongKind found expected => "invalid type: " ++ found ++ ", expected " ++ expected
  | .wrongValue found expected => "invalid value: " ++ found ++ ", expected " ++ expected
  | .wrongLength count expected => "invalid length " ++ toString count ++ ", expected " ++ expected
  | .unknownMember name =>
    "unknown field " ++ ticked name ++ ", expected one of "
      ++ String.intercalate ", " (["width", "height", "color_model", "channel_datatype"].map ticked)
  | .unknownName name known =>
    "unknown variant " ++ ticked name ++ ", expected one of "
      ++ String.intercalate ", " (known.map ticked)
  | .missingMember name => "missing field " ++ ticked name

def found : Json.Value → String
  | .null => "null"
  | .bool b => "boolean " ++ ticked (if b then "true" else "false")
  | .number (.int i) => "integer " ++ ticked (toString i)
  | .number (.real x _) => "floating point " ++ ticked (x.write .json)
  | .string s => "string " ++ Text.quoted s
  | .array _ => "sequence"
  | .object _ => "map"

/-! ## Members -/

def readSize : Json.Value → Except Fault UInt32
  | .number (.int i) =>
    if 0 ≤ i ∧ i ≤ 0xffffffff then .ok i.toNat.toUInt32
    else .error (.wrongValue (found (.number (.int i))) "u32")
  | v => .error (.wrongKind (found v) "u32")

def findName {α : Type} (all : List α) (nameOf : α → String) (name : String) : Except Fault α :=
  match all.find? fun a => nameOf a == name with
  | some a => .ok a
  | none => .error (.unknownName name (all.map nameOf))

/-- A name out of a list, as a string or as the only key of an object, with null as its value. -/
def readName {α : Type} (all : List α) (nameOf : α → String) : Json.Value → Except Fault α
  | .string s => findName all nameOf s
  | .object [(key, v)] => do
    let a ← findName all nameOf key
    match v with
    | .null => .ok a
    | v => .error (.wrongKind (found v) "unit")
  | .object _ => .error (.wrongValue "map" "map with a single key")
  | v => .error (.wrongKind (found v) "string or map")

def readOptional {α : Type} (read : Json.Value → Except Fault α) :
    Option Json.Value → Except Fault (Option α)
  | none => .ok none
  | some .null => .ok none
  | some v => (read v).map some

def readColorModel : Json.Value → Except Fault ColorModel := readName ColorModel.all ColorModel.name

def readChannelType : Json.Value → Except Fault ChannelType :=
  readName ChannelType.all ChannelType.name

/-! ## Formats -/

structure Draft where
  width : Option UInt32
  height : Option UInt32
  colorModel : Option ColorModel
  channelType : Option ChannelType
deriving DecidableEq, Repr

namespace Draft

def blank : Draft := ⟨none, none, none, none⟩

def add (d : Draft) (key : String) (v : Json.Value) : Except Fault Draft :=
  if key = "width" then (readSize v).map fun x => { d with width := some x }
  else if key = "height" then (readSize v).map fun x => { d with height := some x }
  else if key = "color_model" then
    (readOptional readColorModel (some v)).map fun x => { d with colorModel := x }
  else if key = "channel_datatype" then
    (readOptional readChannelType (some v)).map fun x => { d with channelType := x }
  else .error (.unknownMember key)

def finish (d : Draft) : Except Fault ImageFormat :=
  match d.width, d.height with
  | some width, some height => .ok ⟨width, height, d.colorModel, d.channelType⟩
  | none, _ => .error (.missingMember "width")
  | some _, none => .error (.missingMember "height")

end Draft

/-- A format from the entries of an object, which are visited in their order. -/
def ofEntries (entries : List (String × Json.Value)) : Except Fault ImageFormat := do
  let draft ← entries.foldlM (fun d entry => d.add entry.1 entry.2) Draft.blank
  draft.finish

/-- A format from its members in order, of which the last two may be left out. -/
def ofItems (items : List Json.Value) : Except Fault ImageFormat :=
  match items with
  | [] => .error (.wrongLength 0 "struct ImageFormat with 4 elements")
  | [w] => do
    let _ ← readSize w
    .error (.wrongLength 1 "struct ImageFormat with 4 elements")
  | w :: h :: rest => do
    let width ← readSize w
    let height ← readSize h
    let colorModel ← readOptional readColorModel rest.head?
    let channelType ← readOptional readChannelType rest.tail.head?
    if 4 < items.length then .error (.wrongLength items.length "fewer elements in array")
    else .ok ⟨width, height, colorModel, channelType⟩

def read : Json.Value → Except Fault ImageFormat
  | .object entries => ofEntries entries
  | .array items => ofItems items
  | v => .error (.wrongKind (found v) "struct ImageFormat")

end Columnar.ImageFormat
