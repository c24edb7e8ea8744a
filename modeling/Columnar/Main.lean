import Columnar.Command.Run

/-!
# The program

Reads the files that the arguments name, and prints what `Columnar.Command.run` answers.
-/

namespace Columnar.Command

/-- The code of the system for reading a directory. A path that goes on below something other than
a directory is refused with another code; nothing is there. -/
def isADirectory : UInt32 := 21

def findFile (path : String) : IO FileEntry := do
  try
    let bytes ← IO.FS.readBinFile path
    pure (.file bytes.toList)
  catch
    | .noFileOrDirectory _ _ _ => pure .missing
    | .inappropriateType _ code _ =>
      pure (if code = isADirectory then .directory else .missing)
    | .permissionDenied _ code details =>
      pure (.unreadable (details ++ " (os error " ++ toString code ++ ")"))
    | e => pure (.unreadable (toString e))

def findFiles : List String → IO Files
  | [] => pure fun _ => .missing
  | path :: rest => do
    let entry ← findFile path
    let files ← findFiles rest
    pure fun p => if p = path then entry else files p

end Columnar.Command

open Columnar.Command

def main (arguments : List String) : IO UInt32 := do
  let paths := ((Request.parse? arguments).map Request.paths).getD []
  let files ← findFiles paths
  let outcome := run files arguments
  IO.print outcome.stdout
  IO.eprint outcome.stderr
  pure outcome.exit
