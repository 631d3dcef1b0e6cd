import DesignTokens.Export.Read
import DesignTokens.Format.Generate
import DesignTokens.Text.Case

/-!
# Log records

Reading an export and writing a format leave records for whoever debugs an export.
All of them are of the lowest level in use.
-/

namespace DesignTokens

/-- The levels of the log. -/
inductive LogLevel where
  | unset
  | debug
  | info
  | warning
  | error
  | critical
  deriving DecidableEq, Repr

namespace LogLevel

/-- The number of a level. -/
def number : LogLevel → Nat
  | .unset => 0
  | .debug => 10
  | .info => 20
  | .warning => 30
  | .error => 40
  | .critical => 50

/-- The name of a level in records. -/
def name : LogLevel → String
  | .unset => "NOTSET"
  | .debug => "DEBUG"
  | .info => "INFO"
  | .warning => "WARNING"
  | .error => "ERROR"
  | .critical => "CRITICAL"

/-- The names that ask for a level. -/
def names : List (String × LogLevel) := [
  ("CRITICAL", .critical), ("FATAL", .critical), ("ERROR", .error), ("WARN", .warning),
  ("WARNING", .warning), ("INFO", .info), ("DEBUG", .debug), ("NOTSET", .unset)]

/-- The level that a name in any case asks for. -/
def ofName? (name : String) : Option LogLevel :=
  Entries.get? (String.ofList (Text.upper name.toList)) names

/-- The level in force: the lowest one in use on request, otherwise the one that the
environment names, otherwise warnings. -/
def inForce (verbose : Bool) (environment : Option String) : LogLevel :=
  if verbose then .debug else ((environment.bind ofName?).getD .warning)

end LogLevel

/-- A record of the log: where it comes from and what it says. -/
structure LogRecord where
  source : String
  text : String
  deriving DecidableEq, Repr

namespace LogRecord

/-- The level of every record. -/
def level : LogLevel := .debug

/-- The records about an export. -/
def ofExport (sections : Entries Json) : List LogRecord :=
  (Export.notices sections).map fun notice => ⟨"tokensmith.core.parser", notice.text⟩

/-- The record about the classes of a style sheet. -/
def ofClasses (model : Model) : List LogRecord :=
  if model.hasTypography then
    [⟨"tokensmith.generators.css_variables",
      "Emitted " ++ toString model.styles.length ++ " typography classes"⟩]
  else []

/-- The record about the files of a format. -/
def ofFiles (format : Format) (files : List Artifact) : LogRecord :=
  ⟨"tokensmith.generators",
    "Generated " ++ toString files.length ++ " artifact(s) for " ++ format.id ++ ": " ++
      ", ".intercalate (files.map Artifact.filename)⟩

/-- The records about writing a model in a format, as the files given. -/
def ofGeneration (format : Format) (model : Model) (files : List Artifact) :
    List LogRecord :=
  (if format = .cssVariables then ofClasses model else []) ++ [ofFiles format files]

end LogRecord

end DesignTokens
