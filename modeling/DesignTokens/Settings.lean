import DesignTokens.Files.Store
import DesignTokens.Format.Basic
import DesignTokens.Location
import DesignTokens.Text.Lines
import DesignTokens.Text.Search
import DesignTokens.Text.Utf8
import DesignTokens.Toml.Document

/-!
# Settings

Settings stand in a file of their own or in a table of the project file beside it.
The file of their own is preferred. Paths in settings start from the directory of
the file that holds them.
-/

namespace DesignTokens

/-- The settings in force and the file that they come from, if any. -/
structure Settings where
  root : Path
  format : Format
  outputDir : Path
  input : Option Path
  source : Option Path
  deriving Repr

/-- Why settings are rejected. -/
inductive SettingsFault where
  | malformed
  | unreadable (fault : FileFault)
  | notATable
  | notAText (key : String)
  | unknownFormat (name : String)
  | fileMissing (path : Path)

/-- The wording of a fault. -/
def SettingsFault.text : SettingsFault → String
  | .malformed => "Invalid TOML"
  | .unreadable fault => "Could not read config: " ++ fault.message
  | .notATable => "tokensmith settings must be a table"
  | .notAText key => "'" ++ key ++ "' must be a string"
  | .unknownFormat name =>
    "Unknown format '" ++ name ++ "' (expected one of: " ++ Format.choices ++ ")"
  | .fileMissing path => "Config file not found: " ++ path.toString

/-- What stops the search for settings without a report to the user. -/
inductive SettingsBreak where
  | undecodable (fault : Text.Utf8Fault)
  | unreadable (fault : FileFault)
  | digits (fault : Number.DigitFault)
  | notSearchable (typeName : String)
  | withoutMembers (typeName : String)
  deriving DecidableEq, Repr

/-- The wording of a break. -/
def SettingsBreak.text : SettingsBreak → String
  | .undecodable fault => fault.message
  | .unreadable fault => fault.message
  | .digits fault => fault.message
  | .notSearchable typeName => "argument of type '" ++ typeName ++ "' is not iterable"
  | .withoutMembers typeName => "'" ++ typeName ++ "' object has no attribute 'get'"

/-- Why there are no settings. -/
inductive SettingsError where
  | reported (fault : SettingsFault) (location : Option Location)
  | broken (cause : SettingsBreak)

/-- The message of an error. -/
def SettingsError.message : SettingsError → String
  | .reported fault location => Location.describe location fault.text
  | .broken cause => cause.text

namespace Settings

/-- The name of a file that holds nothing but settings. -/
def ownFile : String := "tokensmith.toml"

/-- The name of a project file. -/
def projectFile : String := "pyproject.toml"

/-- The directory that is written to unless settings name another one. -/
def defaultOutput : String := "tokens"

/-- The settings of a directory that has none. -/
def defaults (root : Path) : Settings :=
  ⟨root, .tailwind, root.child defaultOutput, none, none⟩

/-- The text of a settings file with its line ends unified. -/
def textOf (bytes : ByteArray) : Except Text.Utf8Fault (List Char) :=
  (Text.decodeUtf8 bytes.toList).map Text.unifyNewlines

/-- Whether the value of `tool` in a project file mentions the settings: as a member of
a table or an array, or as a part of a text. -/
def mentions (tool : Toml.Value) : Except SettingsBreak Bool :=
  match tool with
  | .table entries => .ok (Entries.has "tokensmith" entries)
  | .array items => .ok (items.any (Toml.Value.isText "tokensmith"))
  | .text value => .ok (Text.occursIn "tokensmith".toList value.toList)
  | other => .error (.notSearchable other.typeName)

/-- Whether the text of a project file mentions the settings; a malformed one does
not. -/
def projectMentions (text : List Char) : Except SettingsBreak Bool :=
  match Toml.read text with
  | .error .malformed => .ok false
  | .error (.digits fault) => .error (.digits fault)
  | .ok table =>
    match table.get? "tool" with
    | none => .ok false
    | some tool => mentions tool

/-- The table of the settings in the table of a whole file. -/
def tableIn (file : Path) (whole : Toml.Table) : Except SettingsError Toml.Table :=
  if file.name = projectFile then
    match whole.get? "tool" with
    | none => .ok []
    | some (.table tool) =>
      match Entries.get? "tokensmith" tool with
      | none => .ok []
      | some (.table table) => .ok table
      | some _ => .error (.reported .notATable (some (.whole file)))
    | some other => .error (.broken (.withoutMembers other.typeName))
  else .ok whole

/-- The text that a setting has to be, if it is given. -/
def text? (file : Path) (table : Toml.Table) (key : String) :
    Except SettingsError (Option String) :=
  match table.get? key with
  | none => .ok none
  | some (.text value) => .ok (some value)
  | some _ => .error (.reported (.notAText key) (some (.whole file)))

/-- The format that a setting names. -/
def formatOf (file : Path) : Option String → Except SettingsError Format
  | none => .ok .tailwind
  | some name =>
    match Format.ofId? name with
    | some format => .ok format
    | none => .error (.reported (.unknownFormat name) (some (.whole file)))

/-- The settings that a table gives. The format is checked first, then the directory
to write to, then the input. -/
def ofTable (file : Path) (table : Toml.Table) : Except SettingsError Settings := do
  let root := file.parent
  let format ← formatOf file (← text? file table "format")
  let output ← text? file table "output_dir"
  let input ← text? file table "input"
  .ok {
    root := root
    format := format
    outputDir := root.child (output.getD defaultOutput)
    input := input.map root.child
    source := some file }

/-- The settings that the content of a file gives. -/
def ofBytes (file : Path) (bytes : ByteArray) : Except SettingsError Settings :=
  match textOf bytes with
  | .error fault => .error (.broken (.undecodable fault))
  | .ok text =>
    match Toml.read text with
    | .error .malformed => .error (.reported .malformed (some (.whole file)))
    | .error (.digits fault) => .error (.broken (.digits fault))
    | .ok whole => do ofTable file (← tableIn file whole)

variable {m : Type → Type} [Monad m] [FileStore m]

/-- The file in a directory that holds settings: the file of their own, or else the
project file if it mentions them. -/
def find (directory : Path) : m (Except SettingsBreak (Option Path)) := do
  let own := directory.child ownFile
  if ← FileStore.isPresent own then pure (.ok (some own))
  else
    let project := directory.child projectFile
    if ← FileStore.isPresent project then
      match ← FileStore.readBytes project with
      | .error fault => pure (.error (.unreadable fault))
      | .ok bytes =>
        match textOf bytes with
        | .error fault => pure (.error (.undecodable fault))
        | .ok text =>
          pure ((projectMentions text).map fun found => if found then some project else none)
    else pure (.ok none)

/-- The settings that a file holds. -/
def load (file : Path) : m (Except SettingsError Settings) := do
  match ← FileStore.readBytes file with
  | .error fault =>
    if fault.isReported then
      pure (.error (.reported (.unreadable fault) (some (.whole file))))
    else pure (.error (.broken (.unreadable fault)))
  | .ok bytes => pure (ofBytes file bytes)

/-- The settings of a named file if one is named, and otherwise those found in a
directory or, if there are none, its defaults. -/
def resolve (file : Option Path) (directory : Path) : m (Except SettingsError Settings) := do
  match file with
  | some path =>
    if ← FileStore.isPresent path then load path
    else pure (.error (.reported (.fileMissing path) none))
  | none =>
    match ← find directory with
    | .error cause => pure (.error (.broken cause))
    | .ok none => pure (.ok (defaults directory))
    | .ok (some path) => load path

end Settings

end DesignTokens
