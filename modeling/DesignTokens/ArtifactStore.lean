import DesignTokens.Files.Store
import DesignTokens.Format.Basic

/-!
# Writing artifacts

Artifacts are written in their order below a directory, which is made if it is
missing. Writing stops at the first fault and leaves what was written before it. A file
is opened before its text is encoded, so a text that cannot be encoded leaves an empty
file. The texts of formats hold no such code points here, because those of a document are
replaced when it is read (`Json.unitChar`).
-/

namespace DesignTokens

/-- A file that is to be written: its name and its text. -/
structure TextFile where
  filename : String
  text : List Text.CodePoint
  deriving DecidableEq, Repr

/-- An artifact as a file that is to be written. -/
def Artifact.textFile (file : Artifact) : TextFile :=
  ⟨file.filename, Text.codePoints file.content⟩

/-- What a file holds in which a text was to be written. -/
def Text.writtenBytes (text : List CodePoint) : ByteArray :=
  match utf8Bytes text with
  | .ok bytes => bytes
  | .error _ => .empty

variable {m : Type → Type} [Monad m] [FileStore m]

/-- Write a text to a file. -/
def writeText (path : Path) (text : List Text.CodePoint) : m (Except FileFault Unit) := do
  match ← FileStore.writeBytes path (Text.writtenBytes text) with
  | .error fault => pure (.error fault)
  | .ok () =>
    match Text.utf8Bytes text with
    | .error cause => pure (.error ⟨.unencodable cause, path⟩)
    | .ok _ => pure (.ok ())

/-- Write files below a directory that exists; the answer is the paths written. -/
def writeInto (directory : Path) : List TextFile → m (Except FileFault (List Path))
  | [] => pure (.ok [])
  | file :: rest => do
    let path := directory.child file.filename
    match ← writeText path file.text with
    | .error fault => pure (.error fault)
    | .ok () =>
      match ← writeInto directory rest with
      | .error fault => pure (.error fault)
      | .ok written => pure (.ok (path :: written))

/-- Write files below a directory, which is made if it is missing. -/
def writeArtifacts (directory : Path) (files : List TextFile) :
    m (Except FileFault (List Path)) := do
  match ← makeDirectories directory with
  | .error fault => pure (.error fault)
  | .ok () => writeInto directory files

end DesignTokens
