import DesignTokens.Files.Store
import DesignTokens.Json.Reader
import DesignTokens.Location
import DesignTokens.Text.Case
import DesignTokens.Text.Utf8

/-!
# Token files

A token file has the extension `.json` in any case, is read as UTF-8 with at most
one byte order mark, and holds a JSON object.
-/

namespace DesignTokens

/-- Why a token file is rejected. -/
inductive TokenFileFault where
  | otherExtension
  | unreadable (fault : FileFault)
  | undecodable (fault : Text.Utf8Fault)
  | malformed (defect : Json.Defect)
  | notAnObject (typeName : String)

/-- The wording of a fault. -/
def TokenFileFault.text : TokenFileFault → String
  | .otherExtension => "Only .json token files can be converted"
  | .unreadable fault => "Could not read token file: " ++ fault.message
  | .undecodable fault => "Could not read token file: " ++ fault.message
  | .malformed defect => "Invalid JSON: " ++ defect.text
  | .notAnObject typeName => "Expected a JSON object at the top level, got " ++ typeName

/-- What breaks the reading of a token file off without a report to the user. -/
inductive TokenFileBreak where
  | unreachable (fault : FileFault)
  | tooManyDigits (count : Nat)
  deriving DecidableEq, Repr

/-- The wording of a break. -/
def TokenFileBreak.text : TokenFileBreak → String
  | .unreachable fault => fault.message
  | .tooManyDigits count => (Number.DigitFault.inText count).message

/-- Why a token file gives no sections: a fault with, if the text comes from a file, its
place, or a break. -/
inductive TokenFileError where
  | reported (fault : TokenFileFault) (location : Option Location)
  | broken (cause : TokenFileBreak)

/-- The message of an error. -/
def TokenFileError.message : TokenFileError → String
  | .reported fault location => Location.describe location fault.text
  | .broken cause => cause.text

namespace TokenFile

/-- The members of the object that a text holds. -/
def ofText (file : Option Path) (text : List Char) : Except TokenFileError (Entries Json) :=
  match Json.read text with
  | .error ⟨.tooManyDigits count, _⟩ => .error (.broken (.tooManyDigits count))
  | .error fault =>
    .error (.reported (.malformed fault.defect) (file.map fun path =>
      ⟨path, some (fault.line text), some (fault.column text), fault.excerpt? text⟩))
  | .ok (.object members) => .ok members
  | .ok value => .error (.reported (.notAnObject value.typeName) (file.map Location.whole))

/-- The text of a file with its line ends unified. -/
def textOf (file : Path) (bytes : ByteArray) : Except TokenFileError (List Char) :=
  match Text.decodeMarkedUtf8 bytes.toList with
  | .ok text => .ok (Text.unifyNewlines text)
  | .error fault => .error (.reported (.undecodable fault) (some (.whole file)))

/-- Whether a file has the extension of token files. -/
def hasExtension (file : Path) : Bool :=
  Text.lower file.extension == ".json".toList

/-- The members of the object that the content of a file holds. -/
def ofBytes (file : Path) (bytes : ByteArray) : Except TokenFileError (Entries Json) := do
  ofText (some file) (← textOf file bytes)

/-- The members of the object that a file holds. -/
def load {m : Type → Type} [Monad m] [FileStore m] (file : Path) :
    m (Except TokenFileError (Entries Json)) := do
  if hasExtension file then
    match ← FileStore.readBytes file with
    | .ok bytes => pure (ofBytes file bytes)
    | .error fault =>
      if fault.isReported then
        pure (.error (.reported (.unreadable fault) (some (.whole file))))
      else pure (.error (.broken (.unreachable fault)))
  else pure (.error (.reported .otherExtension (some (.whole file))))

end TokenFile

end DesignTokens
