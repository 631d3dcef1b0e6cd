import DesignTokens.Command.Arguments
import DesignTokens.Files.Path

/-!
# Requests

What a command line asks for: a conversion, the list of formats, a summary of a token
file, or the version of the program.
-/

namespace DesignTokens.Command

/-- A conversion as it is asked for; what is left out comes from the settings. -/
structure ConvertRequest where
  input : Option Path
  format : Option String
  outputDir : Option Path
  toScreen : Bool
  settingsFile : Option Path
  deriving DecidableEq, Repr

/-- What a command line asks for. -/
inductive Request where
  | version
  | convert (request : ConvertRequest)
  | formats
  | inspect (file : Path)
  deriving DecidableEq, Repr

/-- The paths that a request names. -/
def Request.paths : Request → List Path
  | .convert request =>
    [request.input, request.outputDir, request.settingsFile].filterMap id
  | .inspect file => [file]
  | _ => []

/-- A request, and whether records of the log are wanted with it. -/
structure Invocation where
  verbose : Bool
  request : Request
  deriving DecidableEq, Repr

/-- The options in front of the command. -/
def commonSwitches : List Switch :=
  [⟨"--version", none, false⟩, ⟨"--verbose", some 'v', false⟩]

/-- The options of a conversion. -/
def convertSwitches : List Switch :=
  [⟨"--format", some 'f', true⟩, ⟨"--output", some 'o', true⟩, ⟨"--stdout", none, false⟩,
    ⟨"--config", none, true⟩]

/-- The name of the operand of a conversion and of a summary. -/
def inputOperand : String := "INPUT_FILE"

/-- Read the arguments of a conversion. -/
def readConvert (arguments : List String) : Except UsageFault Request := do
  let sorted ← sortArguments convertSwitches true none arguments
  match sorted.operands with
  | _ :: extra :: more => .error (.extraOperands (extra :: more))
  | operands =>
    .ok <| .convert {
      input := operands.head?.map Path.ofString
      format := sorted.value? "--format"
      outputDir := (sorted.value? "--output").map Path.ofString
      toScreen := sorted.has "--stdout"
      settingsFile := (sorted.value? "--config").map Path.ofString }

/-- Read the arguments of the list of formats. -/
def readFormats (arguments : List String) : Except UsageFault Request := do
  match (← sortArguments [] true none arguments).operands with
  | [] => .ok .formats
  | extra => .error (.extraOperands extra)

/-- Read the arguments of a summary. -/
def readInspect (arguments : List String) : Except UsageFault Request := do
  match (← sortArguments [] true none arguments).operands with
  | [] => .error (.missingOperand inputOperand)
  | [file] => .ok (.inspect (Path.ofString file))
  | _ :: extra => .error (.extraOperands extra)

/-- Read a command and its arguments. -/
def readCommand : List String → Except UsageFault Request
  | [] => .error .missingCommand
  | name :: arguments =>
    if name = "convert" then readConvert arguments
    else if name = "formats" then readFormats arguments
    else if name = "inspect" then readInspect arguments
    else .error (.unknownCommand name)

/-- Read a command line. The version is told before the command is looked at. -/
def Invocation.read (arguments : List String) : Except UsageFault Invocation := do
  let sorted ← sortArguments commonSwitches false none arguments
  let request ← if sorted.has "--version" then .ok .version else readCommand sorted.operands
  .ok ⟨sorted.has "--verbose", request⟩

end DesignTokens.Command
