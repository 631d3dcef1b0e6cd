import DesignTokens.ArtifactStore
import DesignTokens.Command.Outcome
import DesignTokens.Command.Request
import DesignTokens.Settings
import DesignTokens.TokenFile

/-!
# Conversions

A conversion is prepared by reading alone: the settings, the format and the token
file are checked in this order, and its artifacts are made. Only then are they printed
or written.
-/

namespace DesignTokens.Command

/-- Why a conversion stops. -/
inductive ConvertFault where
  | settings (error : SettingsError)
  | withoutInput
  | unknownFormat (error : UnknownFormat)
  | rejected (error : TokenFileError)
  | unwritable (fault : Number.DigitFault)

/-- The outcome of a fault: a report, or a run that breaks off. -/
def ConvertFault.outcome : ConvertFault → Outcome
  | .settings (.broken cause) => .halted (.settings cause) ""
  | .settings error => .failure error.message
  | .withoutInput => .failure "No input file given and no 'input' configured"
  | .unknownFormat error => .failure error.message
  | .rejected (.broken cause) => .halted (.tokenFile cause) ""
  | .rejected error => .failure error.message
  | .unwritable fault => .halted (.digits fault) ""

/-- A conversion that is ready to be carried out, with the files that it makes. -/
structure Conversion where
  settings : Settings
  sections : Entries Json
  format : Format
  outputDir : Path
  files : List Artifact

/-- The records of a conversion. -/
def Conversion.records (conversion : Conversion) : List LogRecord :=
  let settings := (conversion.settings.source.map Path.toString).getD "defaults"
  ⟨"tokensmith.cli", "Config: " ++ settings⟩ :: LogRecord.ofExport conversion.sections ++
    LogRecord.ofGeneration conversion.format (Export.model conversion.sections)
      conversion.files

namespace ConvertRequest

/-- The format that is asked for, or else that of the settings. The empty name asks
for none. -/
def formatIn (settings : Settings) (request : ConvertRequest) :
    Except UnknownFormat Format :=
  match request.format with
  | none => .ok settings.format
  | some name => if name = "" then .ok settings.format else Format.named name

end ConvertRequest

variable {m : Type → Type} [Monad m] [FileStore m]

/-- Prepare a conversion for a directory in which settings are looked for. -/
def prepare (current : Path) (request : ConvertRequest) :
    m (Except ConvertFault Conversion) := do
  match ← Settings.resolve request.settingsFile current with
  | .error error => pure (.error (.settings error))
  | .ok settings =>
    match request.input.or settings.input with
    | none => pure (.error .withoutInput)
    | some file =>
      match request.formatIn settings with
      | .error error => pure (.error (.unknownFormat error))
      | .ok format =>
        match ← TokenFile.load file with
        | .error error => pure (.error (.rejected error))
        | .ok sections =>
          match generate format (Export.model sections) with
          | .error fault => pure (.error (.unwritable fault))
          | .ok files =>
            let outputDir := request.outputDir.getD settings.outputDir
            pure (.ok ⟨settings, sections, format, outputDir, files⟩)

/-- Artifacts as they are printed, each below a line with its name. -/
def printedFiles (files : List Artifact) : String :=
  String.join (files.map fun file =>
    Terminal.rule file.filename ++ Terminal.listing file.content)

/-- What is printed about artifacts that were written. -/
def writtenFiles (format : Format) (directory : Path) (written : List Path) : String :=
  Terminal.line ("✓ Generated " ++ toString written.length ++ " " ++ format.title ++
    " file(s) in " ++ directory.toString) ++
  String.join (written.map fun path => Terminal.line ("  • " ++ path.name))

/-- The artifacts of a conversion as files that are to be written. -/
def Conversion.textFiles (conversion : Conversion) : List TextFile :=
  conversion.files.map Artifact.textFile

/-- Write the artifacts of a conversion. -/
def Conversion.write (conversion : Conversion) : m Outcome := do
  match ← writeArtifacts conversion.outputDir conversion.textFiles with
  | .error fault =>
    if fault.isReported then
      pure (.failure ("Could not write artifacts to " ++ conversion.outputDir.toString ++
        ": " ++ fault.message))
    else pure (.halted (.file fault) "")
  | .ok written =>
    pure (.success (writtenFiles conversion.format conversion.outputDir written)
      conversion.records)

/-- Carry out a conversion. -/
def convert (current : Path) (request : ConvertRequest) : m Outcome := do
  match ← prepare current request with
  | .error fault => pure fault.outcome
  | .ok conversion =>
    if request.toScreen then
      pure (.success (printedFiles conversion.files) conversion.records)
    else conversion.write

end DesignTokens.Command
