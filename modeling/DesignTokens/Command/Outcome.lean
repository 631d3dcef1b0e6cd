import DesignTokens.Log
import DesignTokens.Settings
import DesignTokens.Terminal.Color
import DesignTokens.Terminal.Text
import DesignTokens.TokenFile

/-!
# Outcomes of a run

A run ends with an exit code or breaks off. It leaves what it prints, what it reports,
and its records.
-/

namespace DesignTokens.Command

/-- What breaks a run off without a report to the user. -/
inductive Halt where
  | settings (cause : SettingsBreak)
  | tokenFile (cause : TokenFileBreak)
  | file (fault : FileFault)
  | color (fault : Terminal.ComponentFault)
  | digits (fault : Number.DigitFault)
  deriving DecidableEq, Repr

/-- The wording of what breaks a run off. -/
def Halt.text : Halt → String
  | .settings cause => cause.text
  | .tokenFile cause => cause.text
  | .file fault => fault.message
  | .color fault => fault.message
  | .digits fault => fault.message

/-- How a run ends. -/
inductive Ending where
  | exit (code : Nat)
  | halted (cause : Halt)
  deriving DecidableEq, Repr

/-- What a run leaves. -/
structure Outcome where
  ending : Ending
  out : String
  err : String
  log : List LogRecord
  deriving DecidableEq, Repr

namespace Outcome

/-- A run that succeeds and prints a text. -/
def success (out : String) (log : List LogRecord) : Outcome :=
  ⟨.exit 0, out, "", log⟩

/-- A run that stops with a report. -/
def failure (message : String) : Outcome :=
  ⟨.exit 1, "", Terminal.line ("✗ " ++ message), []⟩

/-- A run that breaks off after it printed a text. -/
def halted (cause : Halt) (out : String) : Outcome :=
  ⟨.halted cause, out, cause.text ++ "\n", []⟩

/-- A run whose command line is refused. -/
def refusal (message : String) : Outcome :=
  ⟨.exit 2, "", "Error: " ++ message ++ "\n", []⟩

/-- The exit code of a run. One that breaks off has that of a failure. -/
def exitCode (outcome : Outcome) : Nat :=
  match outcome.ending with
  | .exit code => code
  | .halted _ => 1

end Outcome

end DesignTokens.Command
