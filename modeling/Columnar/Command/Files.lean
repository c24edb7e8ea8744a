import Columnar.Command.Failure
import Columnar.Json.Reader

/-!
# Files

## Main definitions

- `FileEntry`, `Files`: what is found under a path.
- `readJson`: the JSON value that a file holds.
-/

namespace Columnar.Command

inductive FileEntry where
  | missing
  | directory
  | unreadable (cause : String)
  | file (bytes : List UInt8)
deriving DecidableEq, Repr

abbrev Files := String → FileEntry

def readJson (files : Files) (path : String) : Except Failure Json.Value :=
  match files path with
  | .missing => .error (.plain ("File does not exist: " ++ path))
  | .directory => .error (.plain ("Path is not a file: " ++ path))
  | .unreadable cause => .error ⟨"Failed to read file: " ++ path, [cause]⟩
  | .file bytes =>
    if (ByteArray.mk bytes.toArray).validateUTF8 then
      match Json.Value.read bytes with
      | .ok v => .ok v
      | .error refusal => .error ⟨"Invalid JSON in file: " ++ path, [refusal.message]⟩
    else .error ⟨"Failed to read file: " ++ path, ["stream did not contain valid UTF-8"]⟩

end Columnar.Command
