import Columnar.Command.Grid
import Columnar.Ingest.Table
import Columnar.Number.Layout

/-!
# Texts of tables

## Main definitions

- `cellText`: the text of an element.
- `tableLines`: a table drawn as a grid.
-/

namespace Columnar.Command

def hexText (bytes : List UInt8) : String :=
  String.join (bytes.map fun b =>
    String.ofList (Nat.toDigits 16 (b.toNat / 16) ++ Nat.toDigits 16 (b.toNat % 16)))

def atomText : Atom → String
  | .bool b => if b then "true" else "false"
  | .int i => toString i
  | .half x => x.toDouble.write .table
  | .single x => x.write .tableSingle
  | .double x => x.write .table
  | .text s => s
  | .bytes b => hexText b

mutual

/-- The text of an element; null has none. Members of a struct go by their names. -/
def cellText (type : DataType) : Cell → String
  | .null => ""
  | .atom a => atomText a
  | .list items =>
    let item :=
      match type with
      | .list item => item.type
      | .fixedSizeList item _ => item.type
      | t => t
    "[" ++ String.intercalate ", " (cellTexts item items) ++ "]"
  | .record cells =>
    let members :=
      match type with
      | .struct members => members
      | _ => []
    "\x7b" ++ String.intercalate ", " (memberTexts members cells) ++ "\x7d"
  | .entry value =>
    let values :=
      match type with
      | .dictionary t => t
      | t => t
    cellText values value

def cellTexts (type : DataType) : List Cell → List String
  | [] => []
  | c :: cs => cellText type c :: cellTexts type cs

def memberTexts (members : List Field) : List Cell → List String
  | [] => []
  | c :: cs =>
    match members with
    | [] => []
    | m :: ms => (m.name ++ ": " ++ cellText m.type c) :: memberTexts ms cs

end

def seriesText (s : Series) : String :=
  "[" ++ String.intercalate ", " (cellTexts s.type s.cells) ++ "]"

def columnTexts : TableCells → List String
  | .integers values =>
    values.map fun v =>
      match v with
      | some i => toString i.toInt
      | none => ""
  | .lists _ rows => rows.map seriesText

/-- The rows of a table of `n` rows whose columns are given. -/
def rowsOf (n : Nat) (columns : List (List String)) : List (List String) :=
  match n with
  | 0 => []
  | n + 1 => columns.map (fun c => c.headD "") :: rowsOf n (columns.map List.tail)

def tableLines (t : Table) : List String :=
  Grid.lines
    ⟨t.columns.map fun c => c.name, rowsOf t.numRows (t.columns.map fun c => columnTexts c.cells)⟩

end Columnar.Command
