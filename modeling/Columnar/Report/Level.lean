import Columnar.Text.Letters

/-!
# Severity levels

## Main definitions

- `Level`: how severe a logged message is.
- `Level.name`, `Level.parse?`: the written form, and reading it whatever its case.
-/

namespace Columnar

inductive Level where
  | error
  | warn
  | info
  | debug
  | trace
deriving DecidableEq, Repr

namespace Level

def all : List Level := [.error, .warn, .info, .debug, .trace]

def name : Level → String
  | .error => "ERROR"
  | .warn => "WARN"
  | .info => "INFO"
  | .debug => "DEBUG"
  | .trace => "TRACE"

/-- The level of a name in whatever case. -/
def parse? (text : String) : Option Level := all.find? fun l => Text.sameLetters l.name text

end Level

end Columnar
