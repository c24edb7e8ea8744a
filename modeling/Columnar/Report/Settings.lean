import Columnar.Report.Diagnostic
import Columnar.Text.Blank
import Columnar.Text.Digits

/-!
# Settings

Two settings, given as texts, say how diagnostics are reported. One that is missing keeps its
default, and so does one that cannot be read, which is noted in the log.

## Main definitions

- `Settings`: level of logged diagnostics and length of previews.
- `Settings.ofTexts`: reading them.
- `Settings.diagnostics`: diagnostics that go to the log.
-/

namespace Columnar

structure Settings where
  level : Level
  /-- How many characters of a rejected value are shown. -/
  previewLength : Nat
deriving DecidableEq, Repr

namespace Settings

/-- Warnings with sixty-four characters of the value. -/
def standard : Settings := ⟨.warn, 64⟩

def ignored (name text : String) : LogRecord :=
  ⟨.debug, "arche_bundle::diagnostics", "ignoring invalid " ++ name ++ "=" ++ text⟩

/-- Reads the level, white space at its ends aside. -/
def readLevel (s : Settings) (text : String) : Reporting Settings :=
  match Level.parse? (Text.trim text) with
  | some level => pure { s with level := level }
  | none => do
    modify (Journal.log · (ignored "ARCHE_DIAGNOSTICS_LEVEL" text))
    pure s

def readPreviewLength (s : Settings) (text : String) : Reporting Settings :=
  match Text.parseUnsigned? (Text.trim text) with
  | some n => pure { s with previewLength := n }
  | none => do
    modify (Journal.log · (ignored "ARCHE_VALUE_PREVIEW_LEN" text))
    pure s

def ofTexts (level previewLength : Option String) : Reporting Settings := do
  let s ← level.elim (pure standard) (readLevel standard)
  previewLength.elim (pure s) (readPreviewLength s)

def diagnostics (s : Settings) : Diagnostics := ⟨.log s.level, s.previewLength⟩

end Settings

def Diagnostics.standard : Diagnostics := Settings.standard.diagnostics

end Columnar
