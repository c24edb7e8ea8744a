import Columnar.Error
import Columnar.Text.Split

/-!
# Failures

A command that fails says what it could not do, and why.

## Main definitions

- `Failure`: what failed, and the causes, nearest first.
- `Failure.report`: the text of a failure with all its causes.
-/

namespace Columnar.Command

structure Failure where
  message : String
  /-- Nearest first. -/
  causes : List String
deriving DecidableEq, Repr

namespace Failure

def plain (message : String) : Failure := ⟨message, []⟩

def ofError (message : String) (e : Error) : Failure := ⟨message, e.asCauses⟩

def bare (e : Error) : Failure := ⟨e.message, e.chain⟩

/-- A text whose first line follows one mark and whose other lines follow another. -/
def indented (first others : String) (text : String) : String :=
  first ++ String.intercalate ("\n" ++ others)
    ((Text.splitOn '\n' text.toList).map String.ofList)

def numberMark (n : Nat) : String :=
  let digits := toString n
  String.ofList (List.replicate (5 - digits.length) ' ') ++ digits ++ ": "

def numbered (n : Nat) : List String → List String
  | [] => []
  | cause :: rest => indented (numberMark n) "       " cause :: numbered (n + 1) rest

/-- Causes are numbered if there are several. -/
def causeLines : List String → List String
  | [cause] => [indented "    " "    " cause]
  | causes => numbered 0 causes

def report (f : Failure) : String :=
  let head := "Error: " ++ f.message ++ "\n"
  if f.causes.isEmpty then head
  else head ++ "\nCaused by:\n" ++ String.join ((causeLines f.causes).map (· ++ "\n"))

end Failure

end Columnar.Command
