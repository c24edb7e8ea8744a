import Columnar.Catalog.Archetypes
import Columnar.Command.Arguments
import Columnar.Command.Failure
import Columnar.Command.Help
import Columnar.Json.Printer

/-!
# The command `describe`

Lists the known archetypes or describes one of them, as text or as JSON.

## Main definitions

- `resolve`: the archetype that a name stands for.
- `describeText`: the output of the command.
-/

namespace Columnar.Command

def resolve (name : String) : Except Failure Archetype :=
  match Archetype.find? name with
  | some a => .ok a
  | none =>
    .error (.plain ("Unknown archetype '" ++ name ++ "' (known: "
      ++ String.intercalate ", " (Archetype.known.map Archetype.shortName) ++ ")"))

def fieldJson (f : FieldSpec) : Json.Value :=
  .object
    [("name", .string f.name), ("component", .string f.component.name),
      ("data_type", .string f.component.type.text), ("doc", .string f.doc)]

def archetypeJson (a : Archetype) : Json.Value :=
  .object
    [("name", .string a.name), ("short_name", .string a.shortName),
      ("indicator", .string a.indicator), ("doc", .string a.doc),
      ("fields", .array (a.fields.map fieldJson))]

def fieldLines (f : FieldSpec) : List String :=
  let head :=
    "  " ++ Text.padRight 14 f.name ++ " " ++ Text.padRight 36 f.component.name ++ " "
      ++ f.component.type.text
  if f.doc.isEmpty then [head] else [head, "  " ++ Text.padRight 14 "" ++ " " ++ f.doc]

def archetypeLines (a : Archetype) : List String :=
  [a.name, "  " ++ a.doc, "  indicator: " ++ a.indicator] ++ a.fields.flatMap fieldLines

def listLine (a : Archetype) : String :=
  Text.padRight 24 a.shortName ++ " " ++ toString a.fields.length ++ " field(s)  " ++ a.name

def describeText (o : DescribeOptions) : Except Failure String := do
  let archetypes ← match o.archetype with
    | some name => (resolve name).map fun a => [a]
    | none => .ok Archetype.known
  .ok
    (if o.json then (Json.Value.array (archetypes.map archetypeJson)).pretty ++ "\n"
    else if o.archetype.isSome then unlines (archetypes.flatMap archetypeLines)
    else unlines (archetypes.map listLine))

end Columnar.Command
