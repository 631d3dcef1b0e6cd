import DesignTokens.Command.Run

/-!
# The program

The command line on a disk. Everything that it decides is decided elsewhere; here
files are read and written and texts are printed.
-/

namespace DesignTokens

/-- The problem that an error of the disk stands for. -/
def FileProblem.ofError : IO.Error → FileProblem
  | .noFileOrDirectory _ _ _ => .notFound
  | .alreadyExists _ _ _ => .alreadyExists
  | .inappropriateType _ 20 _ => .notADirectory
  | .inappropriateType _ 21 _ => .isADirectory
  | .permissionDenied _ code _ => .other code.toNat "Permission denied"
  | error => .other 5 (toString error)

/-- The result of an action on a path of the disk. -/
def onDisk {α : Type} (path : Path) (action : IO α) : IO (Except FileFault α) := do
  if path.hasNul then pure (.error ⟨.nulInName, path⟩)
  else
    match ← action.toBaseIO with
    | .ok result => pure (.ok result)
    | .error error => pure (.error ⟨FileProblem.ofError error, path⟩)

/-- Whether a path of the disk with a text after it can be opened. -/
def opens (path : Path) (suffix : String) : IO Bool := do
  match ← onDisk path (IO.FS.Handle.mk (path.toString ++ suffix) .read) with
  | .ok _ => pure true
  | .error _ => pure false

instance : FileStore IO where
  readBytes path := onDisk path (IO.FS.readBinFile path.toString)
  isPresent path := opens path ""
  isDirectory path := opens path "/."
  makeDirectory path := onDisk path (IO.FS.createDir path.toString)
  writeBytes path bytes := onDisk path (IO.FS.writeBinFile path.toString bytes)

/-- The variable of the environment that names the level of the log. -/
def logLevelVariable : String := "TOKENSMITH_LOG_LEVEL"

/-- Whether the records of a run are shown. -/
def showsRecords (arguments : List String) : IO Bool := do
  let verbose := ((Command.Invocation.read arguments).map Command.Invocation.verbose).toOption
  let inForce := LogLevel.inForce (verbose.getD false) (← IO.getEnv logLevelVariable)
  pure (inForce.number ≤ LogRecord.level.number)

end DesignTokens

open DesignTokens in
/-- Run the program from the current directory. -/
def main (arguments : List String) : IO UInt32 := do
  let current := Path.ofString (← IO.currentDir).toString
  let outcome ← (Command.run current arguments : IO Command.Outcome)
  if ← showsRecords arguments then
    for record in outcome.log do
      IO.eprintln (record.source ++ " - " ++ LogRecord.level.name ++ " - " ++ record.text)
  IO.print outcome.out
  IO.eprint outcome.err
  pure (UInt32.ofNat outcome.exitCode)
