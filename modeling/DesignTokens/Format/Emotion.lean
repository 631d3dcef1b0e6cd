import DesignTokens.Format.Banner
import DesignTokens.Format.Basic
import DesignTokens.Format.Theme
import DesignTokens.Key.Kebab

/-!
# Emotion

A theme with its type, the text styles as tagged templates, and a provider.
-/

namespace DesignTokens.Emotion

/-- The indentation of a tagged template. -/
def templateIndent : String := "      "

/-- The tagged template of a text style. -/
def template (style : TextStyle) : String :=
  Text.joinLines <|
    ["css`"] ++ Css.declarations (templateIndent ++ "  ") style ++ [templateIndent ++ "`"]

/-- The tagged templates by device, locale and the name of the style without hyphens. -/
def styleTree (model : Model) : Tree String :=
  model.styleTree Key.withoutHyphens fun entry => template entry.style

/-- The theme file. -/
def themeFile (model : Model) : String :=
  Banner.fixed "Emotion Theme" ++ "\n" ++ Theme.constant model

/-- The file that declares the type of the theme. -/
def declarationFile : String :=
  Banner.fixed "Emotion Theme Type Declaration" ++ Text.joinLines [
    "",
    "import '@emotion/react';",
    "import \x7b theme \x7d from './theme';",
    "",
    "type ThemeType = typeof theme;",
    "",
    "declare module '@emotion/react' \x7b",
    "  export interface Theme extends ThemeType \x7b\x7d",
    "\x7d",
    ""]

/-- The usage lines of the text styles, which access one of them by its path. -/
def accessLines (path : List String) : List String :=
  ["import styled from '@emotion/styled';",
    "import \x7b typography \x7d from './typography';",
    "",
    "const Title = styled.h1`",
    "  $\x7btypography" ++ Script.accessChain path ++ "\x7d",
    "`;"]

/-- The usage lines that access the template of a style entry. -/
def usage (entry : StyleEntry) : List String :=
  accessLines [entry.device, entry.locale, Key.withoutHyphens entry.name]

/-- The text styles with usage lines. -/
def typographyText (usage : List String) (styles : Tree String) : String :=
  Banner.block "Typography Styles for Emotion" false usage ++
    "\nimport \x7b css \x7d from '@emotion/react';\n\nexport const typography = \x7b\n" ++
    Text.joinLines (styles.render Theme.objectStyle "  " 1) ++
    "\n\x7d as const;\n"

/-- The file of the text styles, whose usage lines access the first one. -/
def typographyFile (model : Model) (first : StyleEntry) : String :=
  typographyText (usage first) (styleTree model)

/-- The commented example of the provider, with the lines of a color. -/
def providerExample (usage : List String) : List String :=
  ["// Usage:",
    "//",
    "// // layout.tsx",
    "// import \x7b ThemeProvider \x7d from './ThemeProvider';",
    "//",
    "// export default function App(\x7b children \x7d) \x7b",
    "//   return <ThemeProvider>\x7bchildren\x7d</ThemeProvider>;",
    "// \x7d"] ++
  match usage with
  | [] => []
  | colors =>
    ["//",
      "// // in a component",
      "// import styled from '@emotion/styled';",
      "//",
      "// const Button = styled.button`"] ++
      colors.map ("// " ++ ·) ++ ["// `;"]

/-- The provider with the lines of a color. -/
def providerText (usage : List String) : String :=
  Banner.editable "Theme Provider" ++ Text.joinLines ([
    "",
    "import \x7b ThemeProvider as EmotionThemeProvider \x7d from '@emotion/react';",
    "import \x7b theme \x7d from './theme';",
    "",
    "interface Props \x7b",
    "  children: React.ReactNode;",
    "\x7d",
    "",
    "export function ThemeProvider(\x7b children \x7d: Props) \x7b",
    "  return (",
    "    <EmotionThemeProvider theme=\x7btheme\x7d>",
    "      \x7bchildren\x7d",
    "    </EmotionThemeProvider>",
    "  );",
    "\x7d",
    ""] ++
    providerExample usage ++ [""])

/-- The provider file. -/
def providerFile (model : Model) : String :=
  providerText (Theme.colorUsage "color" model)

/-- The files of the format. -/
def artifacts (model : Model) : List Artifact :=
  [⟨"theme.ts", "typescript", themeFile model⟩,
    ⟨"emotion.d.ts", "typescript", declarationFile⟩] ++
  (match model.styles with
    | [] => []
    | first :: _ => [⟨"typography.ts", "typescript", typographyFile model first⟩]) ++
  [⟨"ThemeProvider.tsx", "typescript", providerFile model⟩]

end DesignTokens.Emotion
