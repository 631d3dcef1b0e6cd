import DesignTokens.Format.Generate

/-!
# Writing what must be there

Behind their guards the writers take the first style, the first and the last color, the first
label of a size and the first key of a family as if there were one. If a guard let a list through
that has none, this would break the writing off.
-/

namespace DesignTokens

/-- What breaks the writing of a format off: a whole number with too many digits, or an element
that is taken where there is none. -/
inductive WriteFault where
  | digits (fault : Number.DigitFault)
  | exhausted
  deriving DecidableEq, Repr

/-- An element that must be there. -/
def taken {α : Type} : Option α → Except WriteFault α
  | some element => .ok element
  | none => .error .exhausted

/-- The font of a page, taken from the theme if that has a family. -/
def Theme.takeDefaultFont (model : Model) : Except WriteFault String :=
  if (familyValues model).isEmpty then .ok "'sans-serif'"
  else do
    let key ← taken (familyValues model).names.head?
    .ok ("theme.fontFamily" ++ Script.accessChain [key] ++ " || 'sans-serif'")

/-- The files of tagged templates, with the first style taken if there are styles. -/
def Emotion.emit (model : Model) : Except WriteFault (List Artifact) := do
  let typography ←
    if model.hasTypography then do
      let first ← taken model.styles.head?
      .ok [⟨"typography.ts", "typescript", typographyFile model first⟩]
    else .ok []
  .ok ([⟨"theme.ts", "typescript", themeFile model⟩,
      ⟨"emotion.d.ts", "typescript", declarationFile⟩] ++ typography ++
    [⟨"ThemeProvider.tsx", "typescript", providerFile model⟩])

/-- The files of mixins. The first mixin is looked up and may be missing; the font of the page is
taken. -/
def StyledComponents.emit (model : Model) : Except WriteFault (List Artifact) := do
  let mixins :=
    match model.styles with
    | [] => []
    | first :: _ => [⟨"mixins.ts", "typescript", mixinsFile model first⟩]
  let font ← Theme.takeDefaultFont model
  .ok ([⟨"theme.ts", "typescript", themeFile model⟩,
      ⟨"styled.d.ts", "typescript", declarationFile⟩] ++ mixins ++
    [⟨"GlobalStyle.tsx", "typescript", globalText font⟩,
      ⟨"ThemeProvider.tsx", "typescript", providerFile model⟩])

namespace VanillaExtract

/-- What the example refers to, with each element taken if the list that holds it is not
empty. -/
def takeSample (model : Model) : Except WriteFault Sample := do
  let colors := (flatColors model).names
  let ends? ←
    if colors.isEmpty then .ok none
    else do
      let first ← taken colors.head?
      let last ← taken colors.getLast?
      .ok (some (first, last))
  let style? ←
    if model.hasTypography then do
      let first ← taken model.styles.head?
      .ok (some (accessPath first))
    else .ok none
  let labels := (sizeScale model.sizes).names
  let size? ←
    if labels.isEmpty then .ok none
    else do
      let first ← taken labels.head?
      .ok (some first)
  .ok ⟨model.hasTypography, style?, ends?, size?⟩

/-- The files of recipes, with what the example refers to taken. -/
def emit (model : Model) : Except WriteFault (List Artifact) := do
  let sample ← takeSample model
  .ok ([⟨"tokens.css.ts", "typescript", tokensFile model⟩] ++
    (if model.hasTypography then [⟨"typography.css.ts", "typescript", recipesFile model⟩]
      else []) ++
    [⟨"sprinkles.css.ts", "typescript", sprinklesFile⟩,
      ⟨"example.ts", "typescript", exampleText sample⟩])

end VanillaExtract

namespace PandaCss

/-- What the example refers to, with the first color and the first style taken if there are
any. -/
def takeSample (model : Model) : Except WriteFault Sample := do
  let paths := model.colors.leaves.map Prod.fst
  let color? ←
    if paths.isEmpty then .ok none
    else do
      let first ← taken paths.head?
      .ok (some first)
  let style? ←
    if model.hasTypography then do
      let first ← taken model.styles.head?
      .ok (some (stylePath first))
    else .ok none
  .ok ⟨color?, style?⟩

/-- The files of the configuration, with what the example refers to taken. -/
def emit (model : Model) : Except WriteFault (List Artifact) := do
  let sample ← takeSample model
  .ok [⟨"panda.config.ts", "typescript", configFile model⟩,
    ⟨"example.tsx", "typescript", exampleText sample⟩,
    ⟨"postcss.config.cjs", "javascript", postcssFile⟩]

end PandaCss

/-- The files of a model in a format, unless a number has too many digits or an element is taken
where there is none. -/
def Format.emit (format : Format) (model : Model) : Except WriteFault (List Artifact) :=
  match format with
  | .tailwind => .ok (Tailwind.artifacts model)
  | .cssVariables => (CssVariables.artifacts model).mapError .digits
  | .scss => (Scss.artifacts model).mapError .digits
  | .emotion => Emotion.emit model
  | .styledComponents => StyledComponents.emit model
  | .vanillaExtract => VanillaExtract.emit model
  | .pandaCss => PandaCss.emit model

end DesignTokens
