import DesignTokens.Files.Path
import DesignTokens.Text.Columns
import DesignTokens.Text.Lines

/-!
# Locations in files

An error may name the file it is about, a line and a column of it, and show that
line with a mark below the column.
-/

namespace DesignTokens

/-- A place that an error message points to. Lines and columns are counted from one. -/
structure Location where
  file : Path
  line : Option Int
  column : Option Int
  excerpt : Option String
  deriving DecidableEq, Repr

namespace Location

/-- A file as a whole. -/
def whole (file : Path) : Location :=
  ⟨file, none, none, none⟩

/-- The file with the line and the column that follow it. -/
def position (location : Location) : String :=
  let file := location.file.toString
  match location.line, location.column with
  | none, _ => file
  | some line, none => file ++ ":" ++ toString line
  | some line, some column => file ++ ":" ++ toString line ++ ":" ++ toString column

/-- What stands in front of an excerpt. -/
def gutter (line : Int) : String :=
  String.ofList (Text.padLeft 4 (toString line).toList) ++ " | "

/-- The excerpt with its number and, below it, a mark at the column. -/
def excerptLines (line : Int) (column : Option Int) (excerpt : String) : List String :=
  (gutter line ++ excerpt) ::
    match column with
    | none => []
    | some column =>
      [Text.repeated ' ' ((gutter line).length + column - 1).toNat ++ "^^^"]

/-- The text of a location. -/
def text (location : Location) : String :=
  match location.line, location.excerpt with
  | some line, some excerpt =>
    Text.joinLines (location.position :: excerptLines line location.column excerpt)
  | _, _ => location.position

/-- A message below the location it is about, if there is one. -/
def describe (location : Option Location) (message : String) : String :=
  match location with
  | some location => location.text ++ "\n" ++ message
  | none => message

end Location

end DesignTokens
