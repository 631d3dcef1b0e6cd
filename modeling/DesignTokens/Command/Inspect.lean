import DesignTokens.Command.Outcome
import DesignTokens.Json.Plain
import DesignTokens.Terminal.Color
import DesignTokens.Terminal.Table
import DesignTokens.TokenFile

/-!
# Summaries of token files

A summary counts the colors, the text styles and the gradients of a token file, lists
the colors, and counts the styles of every device and locale.
-/

namespace DesignTokens.Command

/-- The table of the colors. -/
def colorTable (model : Model) : Terminal.Table where
  title := none
  columns := [⟨"Token", false⟩, ⟨"Value", false⟩, ⟨"Preview", false⟩]
  rows := model.colors.leaves.map fun (path, value) =>
    [".".intercalate path, value.plainText, ""]

/-- The table of the devices and locales. -/
def styleTable (model : Model) : Terminal.Table where
  title := none
  columns := [⟨"Device", false⟩, ⟨"Locale", false⟩, ⟨"Styles", true⟩]
  rows := model.typography.flatMap fun (device, locales) =>
    locales.map fun (locale, styles) => [device, locale, toString styles.length]

/-- The part of a summary that counts the colors. -/
def colorCount (model : Model) : String :=
  Terminal.line ("Colors: " ++ toString model.colors.leaves.length)

/-- The parts of a summary after the count of the colors. -/
def summaryRest (model : Model) : String :=
  (if model.colors.leaves.isEmpty then "" else (colorTable model).print) ++
  Terminal.line ("Typography styles: " ++ toString model.styles.length) ++
  (if model.hasTypography then
    (styleTable model).print ++
      Terminal.line ("Font families: " ++ ", ".intercalate model.families)
  else "") ++
  Terminal.line ("Gradients: " ++ toString model.gradientEntries.length)

/-- The fault of the first color without a block for its preview, whose components are no
numbers. -/
def previewFault? (model : Model) : Option Terminal.ComponentFault :=
  model.colors.leaves.findSome? fun (_, value) =>
    match Terminal.swatch value.plainText with
    | .ok _ => none
    | .error fault => some fault

/-- The summary of the sections of an export. -/
def summary (sections : Entries Json) : Outcome :=
  let model := Export.model sections
  match previewFault? model with
  | none => .success (colorCount model ++ summaryRest model) (LogRecord.ofExport sections)
  | some fault => .halted (.color fault) (colorCount model)

/-- Summarize a token file. -/
def inspect {m : Type → Type} [Monad m] [FileStore m] (file : Path) : m Outcome := do
  match ← TokenFile.load file with
  | .error (.broken cause) => pure (.halted (.tokenFile cause) "")
  | .error error => pure (.failure error.message)
  | .ok sections => pure (summary sections)

end DesignTokens.Command
