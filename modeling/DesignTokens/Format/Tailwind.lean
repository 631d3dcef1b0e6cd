import DesignTokens.Format.Banner
import DesignTokens.Format.Basic
import DesignTokens.Json.Printer
import DesignTokens.Key.Family
import DesignTokens.Model.Basic

/-!
# Tailwind

The colors and the text styles as constants, and a configuration that extends the
theme with the colors and the font families.
-/

namespace DesignTokens.Tailwind

/-- The file of the colors. -/
def colorsFile (model : Model) : String :=
  Banner.fixed "Design Token Colors" ++
    "\nexport const colors = " ++ Json.literal "" model.colors.toJson ++ " as const;\n" ++
    "\nexport type ColorToken = typeof colors;\n"

/-- The file of the text styles. -/
def typographyFile (model : Model) : String :=
  Banner.fixed "Design Token Typography" ++
    "\nexport const typography = " ++ Json.literal "" model.typographyJson ++ " as const;\n" ++
    "\nexport type TypographyToken = typeof typography;\n" ++
    "\nexport type DeviceType = keyof typeof typography;\n" ++
    "export type LocaleType<D extends DeviceType> = keyof typeof typography[D];\n"

/-- The font families with a fallback by their slugs. -/
def familyMap (model : Model) : Json :=
  .object <| Entries.ofPairs <| model.families.map fun family =>
    (Key.familySlug family, .array [.string family, .string "sans-serif"])

/-- The configuration file. -/
def configFile (model : Model) : String :=
  Banner.fixed "Tailwind CSS Configuration" ++ Text.joinLines [
    "",
    "import type \x7b Config \x7d from 'tailwindcss';",
    "import \x7b colors \x7d from './colors';",
    "",
    "const config: Config = \x7b",
    "  content: [",
    "    './src/**/*.\x7bjs,ts,jsx,tsx,mdx\x7d',",
    "    './app/**/*.\x7bjs,ts,jsx,tsx,mdx\x7d',",
    "  ],",
    "  theme: \x7b",
    "    extend: \x7b",
    "      colors,",
    "      fontFamily: " ++ Json.literal "      " (familyMap model) ++ ",",
    "    \x7d,",
    "  \x7d,",
    "  plugins: [],",
    "\x7d;",
    "",
    "export default config;",
    ""]

/-- The files of the format. -/
def artifacts (model : Model) : List Artifact :=
  [⟨"colors.ts", "typescript", colorsFile model⟩] ++
  (if model.hasTypography then [⟨"typography.ts", "typescript", typographyFile model⟩] else []) ++
  [⟨"tailwind.config.ts", "typescript", configFile model⟩]

end DesignTokens.Tailwind
