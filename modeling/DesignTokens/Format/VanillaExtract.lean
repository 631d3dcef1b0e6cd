import DesignTokens.Format.Banner
import DesignTokens.Format.Basic
import DesignTokens.Format.Theme
import DesignTokens.Key.Camel
import DesignTokens.Key.Kebab

/-!
# Vanilla Extract

Colors are keyed by their paths joined with dots, font sizes by their place on a
ladder of labels, and every text style is a named recipe.
-/

namespace DesignTokens.VanillaExtract

/-- The labels of the font sizes in ascending order. -/
def sizeLabels : List String :=
  ["xs", "sm", "md", "base", "lg", "xl", "2xl", "3xl", "4xl", "5xl"]

/-- The label of a font size at a place; past the ladder a size is its own label. -/
def sizeLabel (place : Nat) (size : Number) : String :=
  sizeLabels[place]?.getD size.cssText

/-- The font sizes, given in ascending order, by their labels. -/
def sizeScale (sizes : List Number) : Entries String :=
  Entries.ofPairs (sizes.mapIdx fun place size => (sizeLabel place size, size.pixels))

/-- The name of the recipe of a text style. -/
def recipeName (device locale name : String) : String :=
  Script.identifier
    (device ++ Key.capitalized locale ++ Key.capitalized (Key.withoutHyphens name))

/-- The name of the recipe of a style entry. -/
def recipeOf (entry : StyleEntry) : String :=
  recipeName entry.device entry.locale entry.name

/-- The colors by their paths joined with dots. -/
def flatColors (model : Model) : Entries Json :=
  Entries.ofPairs (model.colors.leaves.map fun (path, value) => (".".intercalate path, value))

/-- The font stacks by the slugs of their families. -/
def familyStacks (model : Model) : Entries String :=
  Entries.ofPairs (model.families.map fun family =>
    (Key.familySlug family, Css.fontStack family))

/-- The line heights by their numbers. -/
def lineHeightMap (model : Model) : Entries String :=
  Entries.ofPairs (model.lineHeights.map fun height => (height.cssText, height.pixels))

/-- The token file. -/
def tokensFile (model : Model) : String :=
  Banner.fixed "Vanilla Extract Design Tokens" ++ Text.joinLines [
    "",
    "import \x7b createGlobalTheme \x7d from '@vanilla-extract/css';",
    "",
    "export const vars = createGlobalTheme(':root', \x7b",
    "  color: " ++ Json.literal "  " (.object (flatColors model)) ++ ",",
    "",
    "  font: \x7b",
    "    family: " ++ Json.literal "    " (.ofStrings (familyStacks model)) ++ ",",
    "  \x7d,",
    "",
    "  fontSize: " ++ Json.literal "  " (.ofStrings (sizeScale model.sizes)) ++ ",",
    "",
    "  lineHeight: " ++ Json.literal "  " (.ofStrings (lineHeightMap model)) ++ ",",
    "",
    "  fontWeight: \x7b",
    "    regular: '400',",
    "    medium: '500',",
    "    bold: '700',",
    "  \x7d,",
    "\x7d);",
    ""]

/-- The properties of a recipe. -/
def recipeLines (style : TextStyle) : List String :=
  ["  fontFamily: " ++ Json.asciiLiteral (Css.fontStack style.family) ++ ",",
    "  fontSize: '" ++ style.size.pixels ++ "',",
    "  fontWeight: " ++ style.weight.cssText ++ ",",
    "  lineHeight: '" ++ style.lineHeight.pixels ++ "',"] ++
  if style.isSpaced then ["  letterSpacing: '" ++ style.letterSpacing.pixels ++ "',"] else []

/-- The recipe of a text style. -/
def recipe (entry : StyleEntry) : String :=
  "export const " ++ recipeOf entry ++ " = style(\x7b\n" ++
    Text.joinLines (recipeLines entry.style) ++ "\n\x7d);\n"

/-- The names of the recipes by device, locale and the name of the style without
hyphens. -/
def recipeTree (model : Model) : Tree String :=
  model.styleTree Key.withoutHyphens recipeOf

/-- The file of the recipes. -/
def recipesFile (model : Model) : String :=
  Banner.fixed "Typography Recipes for Vanilla Extract" ++
    "\nimport \x7b style \x7d from '@vanilla-extract/css';\n\n" ++
    Text.joinLines (model.styles.map recipe) ++
    "\n// Typography object for convenient access\nexport const typography = \x7b\n" ++
    Text.joinLines ((recipeTree model).render Theme.objectStyle "  " 1) ++ "\n\x7d;\n"

/-- The file of the sprinkles. -/
def sprinklesFile : String :=
  Banner.fixed "Vanilla Extract Sprinkles" ++ Text.joinLines [
    "",
    "import \x7b defineProperties, createSprinkles \x7d from '@vanilla-extract/sprinkles';",
    "import \x7b vars \x7d from './tokens.css';",
    "",
    "const responsiveProperties = defineProperties(\x7b",
    "  conditions: \x7b",
    "    mobile: \x7b\x7d,",
    "    tablet: \x7b '@media': 'screen and (min-width: 768px)' \x7d,",
    "    desktop: \x7b '@media': 'screen and (min-width: 1024px)' \x7d,",
    "  \x7d,",
    "  defaultCondition: 'mobile',",
    "  properties: \x7b",
    "    color: vars.color,",
    "    backgroundColor: vars.color,",
    "    fontSize: vars.fontSize,",
    "    fontFamily: vars.font.family,",
    "    fontWeight: vars.fontWeight,",
    "    lineHeight: vars.lineHeight,",
    "  \x7d,",
    "\x7d);",
    "",
    "export const sprinkles = createSprinkles(responsiveProperties);",
    "",
    "export type Sprinkles = Parameters<typeof sprinkles>[0];",
    ""]

/-- What the example refers to: whether it imports the recipes, the path of a style among them,
the first and the last color, and the label of a font size. -/
structure Sample where
  importsRecipes : Bool
  style? : Option (List String)
  colors? : Option (String × String)
  size? : Option String
  deriving DecidableEq, Repr, Inhabited

/-- The path under which the recipe of a style entry is found. -/
def accessPath (entry : StyleEntry) : List String :=
  [entry.device, entry.locale, Key.withoutHyphens entry.name]

/-- What the example of a model refers to: its first style, its first and its last color and the
first label of its font sizes, so far as there are any. -/
def sample (model : Model) : Sample where
  importsRecipes := model.hasTypography
  style? := model.styles.head?.map accessPath
  colors? := do some (← (flatColors model).names.head?, ← (flatColors model).names.getLast?)
  size? := (sizeScale model.sizes).names.head?

/-- The example of a container, whose background is a color. -/
def containerLines (color? : Option String) : List String :=
  ["export const container = style(\x7b"] ++
    (match color? with
      | none => []
      | some color => ["  backgroundColor: vars.color[" ++ Json.asciiLiteral color ++ "],"]) ++
    ["  padding: '16px',", "\x7d);", ""]

/-- The example of a title in a text style, with a color. -/
def titleLines (path : List String) (color? : Option String) : List String :=
  ["export const title = style([", "  typography" ++ Script.accessChain path ++ ","] ++
    (match color? with
      | none => []
      | some color =>
        ["  \x7b", "    color: vars.color[" ++ Json.asciiLiteral color ++ "],", "  \x7d,"]) ++
    ["]);", ""]

/-- The example of a box made of sprinkles. -/
def boxLines (colors? : Option (String × String)) (size? : Option String) : List String :=
  ["// 2. Sprinkles",
    "import \x7b sprinkles \x7d from './sprinkles.css';",
    "",
    "export const box = style([",
    "  sprinkles(\x7b"] ++
    (match colors? with
      | none => []
      | some (first, last) =>
        ["    color: \x7b mobile: " ++ Json.asciiLiteral first ++ ", desktop: " ++
          Json.asciiLiteral last ++ " \x7d,"]) ++
    (match size? with
      | none => []
      | some label => ["    fontSize: " ++ Json.asciiLiteral label ++ ","]) ++
    ["  \x7d),", "]);"]

/-- The import of the recipes, if the example refers to them. -/
def recipesImport (sample : Sample) : List String :=
  if sample.importsRecipes then ["import \x7b typography \x7d from './typography.css';"] else []

/-- The example of a title, if there is a text style. The title has the last color. -/
def titleExample (sample : Sample) : List String :=
  match sample.style? with
  | none => []
  | some path => titleLines path (sample.colors?.map Prod.snd)

/-- The lines of the example. The background of the container is the first color. -/
def exampleLines (sample : Sample) : List String :=
  ["",
    "// 1. Base styles (in a *.css.ts file)",
    "import \x7b style \x7d from '@vanilla-extract/css';",
    "import \x7b vars \x7d from './tokens.css';"] ++
  (recipesImport sample ++ ([""] ++ (containerLines (sample.colors?.map Prod.fst) ++
    (titleExample sample ++ (boxLines sample.colors? sample.size? ++ [""])))))

/-- The example with what it refers to. -/
def exampleText (sample : Sample) : String :=
  Banner.editable "Vanilla Extract Usage Example" ++ Text.joinLines (exampleLines sample)

/-- The example file. -/
def exampleFile (model : Model) : String :=
  exampleText (sample model)

/-- The files of the format. -/
def artifacts (model : Model) : List Artifact :=
  [⟨"tokens.css.ts", "typescript", tokensFile model⟩] ++
  (if model.hasTypography then [⟨"typography.css.ts", "typescript", recipesFile model⟩]
    else []) ++
  [⟨"sprinkles.css.ts", "typescript", sprinklesFile⟩,
    ⟨"example.ts", "typescript", exampleFile model⟩]

end DesignTokens.VanillaExtract
