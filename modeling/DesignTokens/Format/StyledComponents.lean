import DesignTokens.Format.Banner
import DesignTokens.Format.Basic
import DesignTokens.Format.Theme
import DesignTokens.Key.Camel

/-!
# styled-components

A theme with its type and an access function, the text styles as mixins, global
styles, and a provider.
-/

namespace DesignTokens.StyledComponents

/-- The name of the mixin of a text style. -/
def mixinName (device locale name : String) : String :=
  Script.identifier (Key.camel ("typo-" ++ device ++ "-" ++ locale ++ "-" ++ name))

/-- The name of the mixin of a style entry. -/
def mixinOf (entry : StyleEntry) : String :=
  mixinName entry.device entry.locale entry.name

/-- The function that reads a color from the theme by its path. -/
def colorAccess : String :=
  Text.joinLines [
    "",
    "export const getColor = (path: string) => \x7b",
    "  const keys = path.split('.');",
    "  let result: unknown = theme.colors;",
    "",
    "  for (const key of keys) \x7b",
    "    if (typeof result === 'object' && result !== null && key in result) \x7b",
    "      result = (result as Record<string, unknown>)[key];",
    "    \x7d else \x7b",
    "      return undefined;",
    "    \x7d",
    "  \x7d",
    "",
    "  return result as string | undefined;",
    "\x7d;",
    ""]

/-- The theme file. -/
def themeFile (model : Model) : String :=
  Banner.fixed "Styled-Components Theme" ++ "\n" ++ Theme.constant model ++
    "\n// Color access helper" ++ colorAccess

/-- The file that declares the type of the theme. -/
def declarationFile : String :=
  Banner.fixed "Styled-Components Theme Type Declaration" ++ Text.joinLines [
    "",
    "import 'styled-components';",
    "import \x7b theme \x7d from './theme';",
    "",
    "type ThemeType = typeof theme;",
    "",
    "declare module 'styled-components' \x7b",
    "  export interface DefaultTheme extends ThemeType \x7b\x7d",
    "\x7d",
    ""]

/-- The usage lines of the mixins, which use one of them. -/
def usage (mixin : String) : List String :=
  ["import styled from 'styled-components';",
    "import \x7b " ++ mixin ++ " \x7d from './mixins';",
    "",
    "const Title = styled.h1`",
    "  $\x7b" ++ mixin ++ "\x7d",
    "`;"]

/-- The mixin of a text style. -/
def mixin (entry : StyleEntry) : String :=
  "export const " ++ mixinOf entry ++ " = css`\n" ++
    Text.joinLines (Css.declarations "  " entry.style) ++ "\n`;\n"

/-- The file of the mixins, whose usage lines use the first one. -/
def mixinsFile (model : Model) (first : StyleEntry) : String :=
  Banner.block "Typography Mixins for Styled-Components" false (usage (mixinOf first)) ++
    "\nimport \x7b css \x7d from 'styled-components';\n\n" ++
    Text.joinLines (model.styles.map mixin)

/-- The global styles with the expression of their font. -/
def globalText (font : String) : String :=
  Banner.editable "Global Styles" ++ Text.joinLines [
    "",
    "import \x7b createGlobalStyle \x7d from 'styled-components';",
    "",
    "export const GlobalStyle = createGlobalStyle`",
    "  * \x7b",
    "    box-sizing: border-box;",
    "    margin: 0;",
    "    padding: 0;",
    "  \x7d",
    "",
    "  body \x7b",
    "    font-family: $\x7b(\x7b theme \x7d) => " ++ font ++ "\x7d;",
    "    -webkit-font-smoothing: antialiased;",
    "    -moz-osx-font-smoothing: grayscale;",
    "  \x7d",
    "`;",
    ""]

/-- The file of the global styles. -/
def globalFile (model : Model) : String :=
  globalText (Theme.defaultFont model)

/-- The mixin that the example of the provider uses. A mixin without a name is not
used. -/
def sampleMixin? (model : Model) : Option String :=
  match model.styles with
  | [] => none
  | first :: _ => if (mixinOf first).isEmpty then none else some (mixinOf first)

/-- The lines that use a mixin in the example of a component. -/
def mixinLines (mixin : String) : List String :=
  ["//", "// // in a component", "// import styled from 'styled-components';"] ++
    (["// import \x7b " ++ mixin ++ " \x7d from './mixins';"] ++
      (["//", "// const Title = styled.h1`"] ++ ["//   $\x7b" ++ mixin ++ "\x7d"]))

/-- The example of a component, which uses a mixin and the lines of a color. -/
def componentExample (mixin? : Option String) (usage : List String) : List String :=
  let colors := usage.map ("// " ++ ·)
  match mixin?, colors with
  | none, [] => []
  | none, _ =>
    ["//", "// // in a component", "// import styled from 'styled-components';",
      "//", "// const Title = styled.h1`"] ++ colors ++ ["// `;"]
  | some mixin, _ => mixinLines mixin ++ (colors ++ ["// `;"])

/-- The commented example of the provider. -/
def providerExample (mixin? : Option String) (usage : List String) : List String :=
  ["// Usage:",
    "//",
    "// // _app.tsx",
    "// import \x7b ThemeProvider \x7d from './ThemeProvider';",
    "//",
    "// export default function App(\x7b Component, pageProps \x7d) \x7b",
    "//   return (",
    "//     <ThemeProvider>",
    "//       <Component \x7b...pageProps\x7d />",
    "//     </ThemeProvider>",
    "//   );",
    "// \x7d"] ++
  componentExample mixin? usage

/-- The provider with what its example uses. -/
def providerText (mixin? : Option String) (usage : List String) : String :=
  Banner.editable "Theme Provider" ++ Text.joinLines ([
    "",
    "import \x7b ThemeProvider as StyledThemeProvider \x7d from 'styled-components';",
    "import \x7b theme \x7d from './theme';",
    "import \x7b GlobalStyle \x7d from './GlobalStyle';",
    "",
    "interface Props \x7b",
    "  children: React.ReactNode;",
    "\x7d",
    "",
    "export function ThemeProvider(\x7b children \x7d: Props) \x7b",
    "  return (",
    "    <StyledThemeProvider theme=\x7btheme\x7d>",
    "      <GlobalStyle />",
    "      \x7bchildren\x7d",
    "    </StyledThemeProvider>",
    "  );",
    "\x7d",
    ""] ++
    providerExample mixin? usage ++ [""])

/-- The provider file. -/
def providerFile (model : Model) : String :=
  providerText (sampleMixin? model) (Theme.colorUsage "color" model)

/-- The files of the format. -/
def artifacts (model : Model) : List Artifact :=
  [⟨"theme.ts", "typescript", themeFile model⟩,
    ⟨"styled.d.ts", "typescript", declarationFile⟩] ++
  (match model.styles with
    | [] => []
    | first :: _ => [⟨"mixins.ts", "typescript", mixinsFile model first⟩]) ++
  [⟨"GlobalStyle.tsx", "typescript", globalFile model⟩,
    ⟨"ThemeProvider.tsx", "typescript", providerFile model⟩]

end DesignTokens.StyledComponents
