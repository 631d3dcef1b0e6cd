import DesignTokens.Format.Css
import DesignTokens.Json.Printer
import DesignTokens.Key.Family
import DesignTokens.Model.Basic
import DesignTokens.Script.Names
import DesignTokens.Text.Lines
import DesignTokens.Tree.Render

/-!
# Theme constants

The formats that put styles into scripts share a constant that holds the whole
theme, and examples that read from it.
-/

namespace DesignTokens.Theme

/-- The font stacks by the compact keys of their families. -/
def familyValues (model : Model) : Entries String :=
  Entries.ofPairs <| model.families.map fun family =>
    (Key.familyCompact family, Css.fontStack family)

/-- The constant that holds the theme, and its type. -/
def constant (model : Model) : String :=
  Text.joinLines [
    "export const theme = \x7b",
    "  colors: " ++ Json.literal "  " model.colors.toJson ++ ",",
    "",
    "  typography: " ++ Json.literal "  " model.typographyJson ++ ",",
    "",
    "  fontFamily: " ++ Json.literal "  " (.ofStrings (familyValues model)) ++ ",",
    "\x7d as const;",
    "",
    "export type Theme = typeof theme;",
    ""]

/-- A declaration that reads a color from the theme by its path, if there is one. -/
def colorLines (property : String) (path? : Option (List String)) : List String :=
  match path? with
  | none => []
  | some path =>
    ["  " ++ property ++ ": $\x7b(\x7b theme \x7d) => theme.colors" ++
      Script.accessChain path ++ "\x7d;"]

/-- A declaration that reads the first color. -/
def colorUsage (property : String) (model : Model) : List String :=
  colorLines property model.firstColorPath?

/-- The expression of the font of a page: the one of a key of the theme, if there is one. -/
def fontExpression (key? : Option String) : String :=
  match key? with
  | none => "'sans-serif'"
  | some key => "theme.fontFamily" ++ Script.accessChain [key] ++ " || 'sans-serif'"

/-- The expression of the first family of the theme. -/
def defaultFont (model : Model) : String :=
  fontExpression (familyValues model).names.head?

/-- How nested objects of generated code are written, every entry with a comma. -/
def objectStyle : Tree.EntryStyle String where
  leaf name value _ := Script.propertyName name ++ ": " ++ value ++ ","
  opening name := Script.propertyName name ++ ": \x7b"
  closing _ := "\x7d,"

end DesignTokens.Theme
