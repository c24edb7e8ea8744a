import Columnar.Command.Columns

/-!
# Running the program

What the program prints is a function of its arguments and of the files that these name.

## Main definitions

- `Outcome`: exit code and output.
- `Request.paths`: the files that a request needs.
- `run`: the outcome of arguments.
-/

namespace Columnar.Command

structure Outcome where
  exit : UInt32
  stdout : String
  stderr : String
deriving DecidableEq, Repr

def Request.paths : Request → List String
  | .columns o => o.input :: o.indexFile.toList
  | _ => []

def Outcome.ofAnswer : Except Failure String → Outcome
  | .ok output => ⟨0, output, ""⟩
  | .error f => ⟨1, "", f.report⟩

def misuse : Outcome :=
  ⟨2, "", "error: invalid arguments\n\nFor more information, try '--help'.\n"⟩

def Request.run (files : Files) : Request → Outcome
  | .describe o => .ofAnswer (describeText o)
  | .columns o => .ofAnswer (columnsText files o)
  | .help topic => ⟨0, topic.text, ""⟩
  | .version => ⟨0, versionText, ""⟩

def run (files : Files) (arguments : List String) : Outcome :=
  match Request.parse? arguments with
  | some r => r.run files
  | none => misuse

end Columnar.Command
