import DesignTokens.Files.Path
import DesignTokens.Text.CodePoint
import DesignTokens.Text.Quoted

/-!
# Faults of file operations
-/

namespace DesignTokens

/-- Why a file operation failed. -/
inductive FileProblem where
  | notFound
  | alreadyExists
  | notADirectory
  | isADirectory
  | nulInName
  | unencodable (cause : Text.EncodingFault)
  | other (code : Nat) (text : String)
  deriving DecidableEq, Repr

/-- The number and the wording of a problem that the system reports. A name with a NUL
and a text that cannot be encoded never reach the system. -/
def FileProblem.report? : FileProblem → Option (Nat × String)
  | .notFound => some (2, "No such file or directory")
  | .alreadyExists => some (17, "File exists")
  | .notADirectory => some (20, "Not a directory")
  | .isADirectory => some (21, "Is a directory")
  | .nulInName => none
  | .unencodable _ => none
  | .other code text => some (code, text)

/-- A problem with a path. -/
structure FileFault where
  problem : FileProblem
  path : Path
  deriving DecidableEq, Repr

namespace FileFault

/-- Whether the system reports a fault. -/
def isReported (fault : FileFault) : Bool :=
  fault.problem.report?.isSome

/-- The wording of a fault. -/
def message (fault : FileFault) : String :=
  match fault.problem, fault.problem.report? with
  | .unencodable cause, _ => cause.message
  | _, none => "embedded null byte"
  | _, some (code, text) =>
    "[Errno " ++ ToString.toString code ++ "] " ++ text ++ ": " ++
      Text.quoted fault.path.toString

end FileFault

end DesignTokens
