import DesignTokens.Format.Banner
import DesignTokens.Format.Basic
import DesignTokens.Format.Css
import DesignTokens.Json.Plain
import DesignTokens.Key.Kebab
import DesignTokens.Model.Basic
import DesignTokens.Tree.Render

/-!
# Sass

Colors are written twice, as variables and as one nested map; every text style is a
mixin. An index forwards the other files.
-/

namespace DesignTokens.Scss

/-- The font weights that are always offered. -/
def fontWeights : List (String × Nat) :=
  [("regular", 400), ("medium", 500), ("bold", 700)]

/-- The variables of the colors. -/
def colorVariables (model : Model) : List String :=
  model.colors.leaves.map fun (path, value) =>
    "$color-" ++ Key.kebab ("-".intercalate path) ++ ": " ++ value.plainText ++ ";"

/-- The variables of the gradients. -/
def gradientVariables (model : Model) : Except Number.DigitFault (List String) :=
  model.gradientEntries.mapM fun entry => do
    let drawn ← Css.gradient entry.gradient
    .ok ("$gradient-" ++ entry.category ++ "-" ++ entry.name ++ ": " ++ drawn ++ ";")

/-- How the entries of the color map are written: a comma separates entries, and none
follows the last one of a level. -/
def mapStyle : Tree.EntryStyle Json where
  leaf name value isLast :=
    "'" ++ name ++ "': " ++ value.plainText ++ (if isLast then "" else ",")
  opening name := "'" ++ name ++ "': ("
  closing isLast := if isLast then ")" else "),"

/-- The lines of the map of colors. -/
def colorMap (model : Model) : List String :=
  if model.colors.isEmpty then ["$colors: ();"]
  else ["$colors: ("] ++ model.colors.render mapStyle "  " 1 ++ [");"]

/-- The partial of the colors and gradients. -/
def colorsPartial (model : Model) : Except Number.DigitFault String := do
  let gradients ← gradientVariables model
  let lines :=
    colorVariables model ++
    (if model.hasGradients then ["", "// Gradients"] ++ gradients else []) ++
    ["", "// Color Map for programmatic access"] ++ colorMap model
  .ok (Banner.lineComment "Design Token Colors" ++ "\n" ++ Text.joinLines lines ++ "\n")

/-- The variables of the font families. -/
def familyVariables (model : Model) : List String :=
  model.families.map fun family =>
    "$font-family-" ++ Key.kebab family ++ ": " ++ Css.fontStack family ++ ";"

/-- The name of a font size, in which a low line stands for the decimal mark. -/
def sizeName (size : Number) : String :=
  String.ofList (size.cssText.toList.map fun c => if c = '.' then '_' else c)

/-- The variables of the font sizes. -/
def sizeVariables (model : Model) : List String :=
  model.sizes.map fun size =>
    "$font-size-" ++ sizeName size ++ ": " ++ size.pixels ++ ";"

/-- The mixin of a text style, and an empty line after it. -/
def mixinLines (entry : StyleEntry) : List String :=
  ["@mixin typo-" ++ entry.device ++ "-" ++ entry.locale ++ "-" ++ entry.name ++ " \x7b"] ++
    Css.declarations "  " entry.style ++ ["\x7d", ""]

/-- The partial of the text styles. -/
def typographyPartial (model : Model) : String :=
  let lines :=
    ["// Font Families"] ++ familyVariables model ++
    ["", "// Font Sizes"] ++ sizeVariables model ++
    ["", "// Font Weights"] ++
    fontWeights.map (fun (name, weight) =>
      "$font-weight-" ++ name ++ ": " ++ toString weight ++ ";") ++
    ["", "// Typography Mixins"] ++ model.styles.flatMap mixinLines
  Banner.lineComment "Design Token Typography" ++ "\n" ++ Text.joinLines lines

/-- The name under which a partial is forwarded: its file name without the low line
in front and the extension. -/
def moduleName (filename : String) : String :=
  let name := filename.toList.drop 1
  let extension := ".scss".toList
  String.ofList <|
    if extension.isSuffixOf name then name.take (name.length - extension.length) else name

/-- The index, which forwards partials in their order. -/
def index (partials : List Artifact) : String :=
  let forwards := partials.map fun file => "@forward '" ++ moduleName file.filename ++ "';"
  Banner.lineComment "Design Tokens" ++ "\n" ++ Text.joinLines forwards ++ "\n"

/-- The partials of the format. -/
def partials (model : Model) : Except Number.DigitFault (List Artifact) := do
  let colors ← colorsPartial model
  .ok <| [⟨"_colors.scss", "scss", colors⟩] ++
    if model.hasTypography then [⟨"_typography.scss", "scss", typographyPartial model⟩] else []

/-- The files of the format. -/
def artifacts (model : Model) : Except Number.DigitFault (List Artifact) := do
  let partials ← partials model
  .ok (partials ++ [⟨"_index.scss", "scss", index partials⟩])

end DesignTokens.Scss
