import Columnar.Ingest.Index
import Columnar.Text.Digits
import Columnar.Text.Split

/-!
# Arguments

The arguments of the program ask for one of its two commands, for help or for the version. They are
read from left to right: whatever is wrong counts only if help is not asked for before it.

## Main definitions

- `DescribeOptions`, `ColumnsOptions`: what the commands are given.
- `Topic`, `Request`: what help is asked for, and what may be asked for in all.
- `Request.parse?`: the request that arguments make, if they make one.
-/

namespace Columnar.Command

/-! ## Single arguments -/

inductive Token where
  /-- Two dashes: no argument after them is an option. -/
  | escape
  /-- A name after two dashes, with what follows an equals sign. -/
  | long (name : String) (value : Option String)
  /-- A letter after one dash, with all that follows it. -/
  | short (letter : Char) (attached : List Char)
  | word (text : String)
deriving DecidableEq, Repr

def splitValue (cs : List Char) : String × Option String :=
  match cs.dropWhile (· ≠ '=') with
  | [] => (String.ofList cs, none)
  | _ :: value => (String.ofList (cs.takeWhile (· ≠ '=')), some (String.ofList value))

def Token.ofArgument (argument : String) : Token :=
  match argument.toList with
  | ['-', '-'] => .escape
  | '-' :: '-' :: cs =>
    let (name, value) := splitValue cs
    .long name value
  | '-' :: c :: cs => .short c cs
  | _ => .word argument

/-- The value attached to a letter, with or without an equals sign. -/
def attachedValue? : List Char → Option String
  | [] => none
  | '=' :: value => some (String.ofList value)
  | value => some (String.ofList value)

/-! ## Requests -/

structure DescribeOptions where
  archetype : Option String
  json : Bool
deriving DecidableEq, Repr

structure ColumnsOptions where
  archetype : String
  input : String
  partition : Option (List Nat)
  timeline : Option String
  indexFile : Option String
  indexKind : IndexKind
  entityPath : String
  json : Bool
deriving DecidableEq, Repr

inductive Topic where
  | program
  | describe
  | columns
  | help
deriving DecidableEq, Repr

inductive Request where
  | describe (options : DescribeOptions)
  | columns (options : ColumnsOptions)
  | help (topic : Topic)
  | version
deriving DecidableEq, Repr

inductive Stop where
  | help
  /-- The command does not take them. -/
  | misuse
deriving DecidableEq, Repr

/-! ## The arguments of `describe` -/

def DescribeOptions.name (o : DescribeOptions) (text : String) : Except Stop DescribeOptions :=
  if o.archetype.isSome then .error .misuse else .ok { o with archetype := some text }

def DescribeOptions.names (o : DescribeOptions) (texts : List String) :
    Except Stop DescribeOptions :=
  texts.foldlM name o

def parseDescribe (o : DescribeOptions) : List String → Except Stop DescribeOptions
  | [] => .ok o
  | argument :: rest =>
    match Token.ofArgument argument with
    | .escape => o.names rest
    | .long "help" none => .error .help
    | .long "json" none =>
      if o.json then .error .misuse else parseDescribe { o with json := true } rest
    | .long _ _ => .error .misuse
    | .short 'h' _ => .error .help
    | .short _ _ => .error .misuse
    | .word text => do
      let o ← o.name text
      parseDescribe o rest

/-! ## The arguments of `columns` -/

inductive ColumnsKey where
  | archetype
  | input
  | partition
  | timeline
  | indexFile
  | indexKind
  | entityPath
deriving DecidableEq, Repr

def ColumnsKey.ofLong? : String → Option ColumnsKey
  | "archetype" => some .archetype
  | "input" => some .input
  | "partition" => some .partition
  | "timeline" => some .timeline
  | "index-file" => some .indexFile
  | "index-kind" => some .indexKind
  | "entity-path" => some .entityPath
  | _ => none

def ColumnsKey.ofShort? : Char → Option ColumnsKey
  | 'a' => some .archetype
  | 'i' => some .input
  | 'p' => some .partition
  | _ => none

structure ColumnsDraft where
  archetype : Option String
  input : Option String
  partition : Option (List Nat)
  timeline : Option String
  indexFile : Option String
  indexKind : Option IndexKind
  entityPath : Option String
  json : Bool
deriving DecidableEq, Repr

namespace ColumnsDraft

def blank : ColumnsDraft := ⟨none, none, none, none, none, none, none, false⟩

def once {α : Type} (old : Option α) (new : α) : Except Stop (Option α) :=
  match old with
  | none => .ok (some new)
  | some _ => .error .misuse

def indexKindName : IndexKind → String
  | .sequence => "sequence"
  | .durationNanos => "duration-ns"
  | .timestampNanos => "timestamp-ns"

def readIndexKind (text : String) : Except Stop IndexKind :=
  match IndexKind.all.find? fun k => indexKindName k == text with
  | some k => .ok k
  | none => .error .misuse

def readLengths (text : String) : Except Stop (List Nat) :=
  let parts := (Text.splitOn ',' text.toList).map String.ofList
  match parts.mapM Text.parseUnsigned? with
  | some lengths => .ok lengths
  | none => .error .misuse

/-- Takes an option with its value. Lengths may be given in several parts. -/
def put (d : ColumnsDraft) (key : ColumnsKey) (text : String) : Except Stop ColumnsDraft :=
  match key with
  | .archetype => (once d.archetype text).map fun x => { d with archetype := x }
  | .input => (once d.input text).map fun x => { d with input := x }
  | .partition =>
    (readLengths text).map fun x => { d with partition := some (d.partition.getD [] ++ x) }
  | .timeline => (once d.timeline text).map fun x => { d with timeline := x }
  | .indexFile => (once d.indexFile text).map fun x => { d with indexFile := x }
  | .indexKind => do
    let kind ← readIndexKind text
    (once d.indexKind kind).map fun x => { d with indexKind := x }
  | .entityPath => (once d.entityPath text).map fun x => { d with entityPath := x }

def finish (d : ColumnsDraft) : Except Stop ColumnsOptions :=
  match d.archetype, d.input with
  | some archetype, some input =>
    if d.indexFile.isSome && d.timeline.isNone then .error .misuse
    else
      .ok
        { archetype, input, partition := d.partition, timeline := d.timeline,
          indexFile := d.indexFile, indexKind := d.indexKind.getD .sequence,
          entityPath := d.entityPath.getD "data", json := d.json }
  | _, _ => .error .misuse

end ColumnsDraft

/-- Whether an argument can stand as the value of the option before it. -/
def isValue (argument : String) : Bool :=
  match Token.ofArgument argument with
  | .word _ => true
  | _ => false

def parseColumns (d : ColumnsDraft) : List String → Except Stop ColumnsDraft
  | [] => .ok d
  | argument :: rest =>
    let valued (key : Option ColumnsKey) (value : Option String) : Except Stop ColumnsDraft :=
      match key, value, rest with
      | none, _, _ => .error .misuse
      | some key, some value, rest => do
        let d ← d.put key value
        parseColumns d rest
      | some _, none, [] => .error .misuse
      | some key, none, value :: rest =>
        if isValue value then do
          let d ← d.put key value
          parseColumns d rest
        else .error .misuse
    match Token.ofArgument argument with
    | .escape => if rest.isEmpty then .ok d else .error .misuse
    | .long "help" none => .error .help
    | .long "json" none =>
      if d.json then .error .misuse else parseColumns { d with json := true } rest
    | .long name value => valued (ColumnsKey.ofLong? name) value
    | .short 'h' _ => .error .help
    | .short letter attached => valued (ColumnsKey.ofShort? letter) (attachedValue? attached)
    | .word _ => .error .misuse
termination_by arguments => arguments.length

/-! ## All arguments -/

def Request.orHelp (topic : Topic) : Except Stop Request → Option Request
  | .ok r => some r
  | .error .help => some (.help topic)
  | .error .misuse => none

def parseHelp? : List String → Option Topic
  | [] => some .program
  | ["describe"] => some .describe
  | ["columns"] => some .columns
  | ["help"] => some .help
  | _ => none

def Request.parse? : List String → Option Request
  | [] => none
  | argument :: rest =>
    match Token.ofArgument argument with
    | .word "describe" =>
      Request.orHelp .describe ((parseDescribe ⟨none, false⟩ rest).map Request.describe)
    | .word "columns" =>
      Request.orHelp .columns ((do
        let d ← parseColumns .blank rest
        d.finish).map Request.columns)
    | .word "help" => (parseHelp? rest).map Request.help
    | .long "help" none | .short 'h' _ => some (.help .program)
    | .long "version" none | .short 'V' _ => some .version
    | _ => none

end Columnar.Command
