import DesignTokens.Files.Fault

/-!
# File stores

What the program asks of the place where files are kept. The five operations are the
whole of it: a store of files in memory serves the theory, the disk serves the
command line.
-/

namespace DesignTokens

/-- Operations on files. -/
class FileStore (m : Type → Type) where
  /-- The content of a file. -/
  readBytes : Path → m (Except FileFault ByteArray)
  /-- Whether there is a file or a directory. -/
  isPresent : Path → m Bool
  /-- Whether there is a directory. -/
  isDirectory : Path → m Bool
  /-- Make one directory in a directory that exists. -/
  makeDirectory : Path → m (Except FileFault Unit)
  /-- Make or overwrite a file in a directory that exists. -/
  writeBytes : Path → ByteArray → m (Except FileFault Unit)

variable {m : Type → Type} [Monad m] [FileStore m]

/-- A directory that could not be made does no harm if it exists already. -/
def settleDirectory (path : Path) : Except FileFault Unit → m (Except FileFault Unit)
  | .ok () => pure (.ok ())
  | .error fault =>
    if fault.problem = .notFound then pure (.error fault)
    else do
      if ← FileStore.isDirectory path then pure (.ok ()) else pure (.error fault)

/-- Make a directory and at most `depth` missing directories above it. -/
def makeDirectoriesWithin (depth : Nat) (path : Path) : m (Except FileFault Unit) := do
  match ← FileStore.makeDirectory path with
  | .ok () => pure (.ok ())
  | .error fault =>
    match depth with
    | 0 => settleDirectory path (.error fault)
    | depth + 1 =>
      if fault.problem = .notFound ∧ path.parts ≠ [] then
        match ← makeDirectoriesWithin depth path.parent with
        | .error above => pure (.error above)
        | .ok () => settleDirectory path (← FileStore.makeDirectory path)
      else settleDirectory path (.error fault)

/-- Make a directory and the missing directories above it, unless it exists. -/
def makeDirectories (path : Path) : m (Except FileFault Unit) :=
  makeDirectoriesWithin path.parts.length path

end DesignTokens
