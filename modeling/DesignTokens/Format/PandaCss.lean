import DesignTokens.Format.Banner
import DesignTokens.Format.Basic
import DesignTokens.Json.Plain
import DesignTokens.Json.Printer
import DesignTokens.Key.Family
import DesignTokens.Model.Basic
import DesignTokens.Text.Lines

/-!
# Panda

Every token is wrapped as a record with the single field `value`. Font sizes and
line heights are keyed by their numbers, and text styles by device, locale and name.
-/

namespace DesignTokens.PandaCss

/-- A value wrapped as a token record. -/
def tokenRecord (value : Json) : Json :=
  .object [("value", value)]

/-- The font weights that are always offered. -/
def fontWeights : Json :=
  .object [("regular", tokenRecord (.string "400")), ("medium", tokenRecord (.string "500")),
    ("bold", tokenRecord (.string "700"))]

/-- The colors as token records. -/
def colorTokens (model : Model) : Tree Json :=
  model.colors.wrap "value"

/-- The font families as token records by their slugs. -/
def fontTokens (model : Model) : Entries Json :=
  Entries.ofPairs (model.families.map fun family =>
    (Key.familySlug family, tokenRecord (.string (family ++ ", sans-serif"))))

/-- Lengths as token records by their numbers. -/
def lengthTokens (lengths : List Number) : Entries Json :=
  Entries.ofPairs (lengths.map fun length =>
    (length.cssText, tokenRecord (.string length.pixels)))

/-- The font sizes as token records. -/
def sizeTokens (model : Model) : Entries Json :=
  lengthTokens model.sizes

/-- The line heights as token records. -/
def lineHeightTokens (model : Model) : Entries Json :=
  lengthTokens model.lineHeights

/-- A text style as a token record. -/
def textStyle (style : TextStyle) : Json :=
  tokenRecord <| .object <|
    [("fontFamily", .string (style.family ++ ", sans-serif")),
      ("fontSize", .string style.size.pixels),
      ("fontWeight", .number style.weight),
      ("lineHeight", .string style.lineHeight.pixels)] ++
    if style.isSpaced then [("letterSpacing", .string style.letterSpacing.pixels)] else []

/-- The text styles as token records by device, locale and name. -/
def textStyles (model : Model) : Tree Json :=
  model.styleTree (fun name => name) fun entry => textStyle entry.style

/-- A property of the configuration at an indentation. -/
def property (indent name : String) (value : Json) : String :=
  indent ++ name ++ ": " ++ Json.literal indent value ++ ","

/-- The lines of the token groups. -/
def tokenLines (model : Model) : List String :=
  let group := property "        "
  [group "colors" (colorTokens model).toJson] ++
  if model.hasTypography then
    ["", group "fonts" (.object (fontTokens model)),
      "", group "fontSizes" (.object (sizeTokens model)),
      "", group "fontWeights" fontWeights,
      "", group "lineHeights" (.object (lineHeightTokens model))]
  else []

/-- The lines of the text styles, if there are any. -/
def styleLines (model : Model) : List String :=
  if model.hasTypography then
    ["", "      // Text styles (typography presets)",
      property "      " "textStyles" (textStyles model).toJson]
  else []

/-- The configuration file. -/
def configFile (model : Model) : String :=
  Banner.fixed "Panda CSS Configuration" ++ Text.joinLines ([
    "",
    "import \x7b defineConfig \x7d from '@pandacss/dev';",
    "",
    "export default defineConfig(\x7b",
    "  include: ['./src/**/*.\x7bjs,jsx,ts,tsx\x7d'],",
    "",
    "  exclude: [],",
    "",
    "  preflight: true,",
    "",
    "  theme: \x7b",
    "    extend: \x7b",
    "      tokens: \x7b"] ++
    tokenLines model ++ ["      \x7d,"] ++ styleLines model ++ [
    "    \x7d,",
    "  \x7d,",
    "",
    "  outdir: 'styled-system',",
    "\x7d);",
    ""])

/-- What the example refers to: the path of a color and that of a text style. -/
structure Sample where
  color? : Option (List String)
  style? : Option (List String)
  deriving DecidableEq, Repr, Inhabited

/-- The path of a style entry among the text styles. -/
def stylePath (entry : StyleEntry) : List String :=
  [entry.device, entry.locale, entry.name]

/-- What the example of a model refers to: its first color and its first style, so far as there
are any. -/
def sample (model : Model) : Sample where
  color? := model.firstColorPath?
  style? := model.styles.head?.map stylePath

/-- The properties of the example card, among them its color. -/
def cardLines (color? : Option (List String)) : List String :=
  (match color? with
    | none => []
    | some path => ["        color: '" ++ ".".intercalate path ++ "',"]) ++
  ["        p: '4',", "        rounded: 'lg',"]

/-- The heading of the example card in a text style. -/
def headingLines (path : List String) : List String :=
  ["      <h2",
    "        className=\x7bcss(\x7b",
    "          textStyle: '" ++ ".".intercalate path ++ "',",
    "          mb: '2',",
    "        \x7d)\x7d",
    "      >",
    "        Title",
    "      </h2>"]

/-- The example of a heading, if there is a text style. -/
def headingExample (sample : Sample) : List String :=
  match sample.style? with
  | none => []
  | some path => headingLines path

/-- The lines of the example up to the properties of the card. -/
def frontLines : List String := [
  "",
  "// 1. Run codegen first",
  "// npx panda codegen",
  "",
  "// 2. Use in components",
  "import \x7b css \x7d from '../styled-system/css';",
  "import \x7b container, stack \x7d from '../styled-system/patterns';",
  "",
  "export function Card() \x7b",
  "  return (",
  "    <div",
  "      className=\x7bcss(\x7b"]

/-- The lines of the example behind the heading of the card. -/
def backLines : List String := [
  "    </div>",
  "  );",
  "\x7d",
  "",
  "// 3. Patterns",
  "export function Layout() \x7b",
  "  return (",
  "    <div className=\x7bcontainer(\x7b maxW: '1200px' \x7d)\x7d>",
  "      <div className=\x7bstack(\x7b gap: '4' \x7d)\x7d>\x7b/* content */\x7d</div>",
  "    </div>",
  "  );",
  "\x7d",
  ""]

/-- The lines of the example. -/
def exampleLines (sample : Sample) : List String :=
  frontLines ++ (cardLines sample.color? ++ (["      \x7d)\x7d", "    >"] ++
    (headingExample sample ++ backLines)))

/-- The example with what it refers to. -/
def exampleText (sample : Sample) : String :=
  Banner.editable "Panda CSS Usage Example" ++ Text.joinLines (exampleLines sample)

/-- The example file. -/
def exampleFile (model : Model) : String :=
  exampleText (sample model)

/-- The file that plugs the generator into the build. -/
def postcssFile : String :=
  Banner.editable "PostCSS Configuration for Panda CSS" ++ Text.joinLines [
    "",
    "module.exports = \x7b",
    "  plugins: \x7b",
    "    '@pandacss/dev/postcss': \x7b\x7d,",
    "  \x7d,",
    "\x7d;",
    ""]

/-- The files of the format. -/
def artifacts (model : Model) : List Artifact :=
  [⟨"panda.config.ts", "typescript", configFile model⟩,
    ⟨"example.tsx", "typescript", exampleFile model⟩,
    ⟨"postcss.config.cjs", "javascript", postcssFile⟩]

end DesignTokens.PandaCss
