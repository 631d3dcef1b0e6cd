import DesignTokens.Command.Convert
import DesignTokens.Command.Inspect

/-!
# Running the program
-/

namespace DesignTokens.Command

/-- The version of the program. -/
def version : String := "0.3.0"

/-- The table of the formats. -/
def formatTable : Terminal.Table where
  title := some "Output formats"
  columns := [⟨"Format", false⟩, ⟨"Name", false⟩, ⟨"Description", false⟩]
  rows := Format.all.map fun format => [format.id, format.title, format.description]

variable {m : Type → Type} [Monad m] [FileStore m]

/-- Answer a request from a directory. -/
def answer (current : Path) : Request → m Outcome
  | .version => pure (.success ("tokensmith version " ++ version ++ "\n") [])
  | .formats => pure (.success formatTable.print [])
  | .convert request => convert current request
  | .inspect file => inspect file

/-- Run the program from a directory. A path that no file can have breaks the run off
before it starts. -/
def run (current : Path) (arguments : List String) : m Outcome :=
  match Invocation.read arguments with
  | .error fault => pure (.refusal fault.message)
  | .ok invocation =>
    match invocation.request.paths.find? Path.hasNul with
    | some path => pure (.halted (.file ⟨.nulInName, path⟩) "")
    | none => answer current invocation.request

end DesignTokens.Command
