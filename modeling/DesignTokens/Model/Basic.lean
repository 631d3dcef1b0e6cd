import DesignTokens.Gradient
import DesignTokens.TextStyle
import DesignTokens.Tree.Basic

/-!
# Token models

A model holds the colors of an export as a tree, its text styles by device, locale
and name, and its gradients by category and name. Every format is written from a
model alone.
-/

namespace DesignTokens

/-- The tokens of an export. -/
structure Model where
  colors : Tree Json
  typography : Entries (Entries (Entries TextStyle))
  gradients : Option (Entries (Entries Gradient))
  deriving Inhabited

/-- A text style with its device, its locale and its name. -/
structure StyleEntry where
  device : String
  locale : String
  name : String
  style : TextStyle
  deriving DecidableEq, Repr, Inhabited

/-- A gradient with its category and its name. -/
structure GradientEntry where
  category : String
  name : String
  gradient : Gradient
  deriving DecidableEq, Repr, Inhabited

namespace Model

/-- The text styles in the order of the model. -/
def styles (model : Model) : List StyleEntry :=
  model.typography.flatMap fun (device, locales) =>
    locales.flatMap fun (locale, styles) =>
      styles.map fun (name, style) => ⟨device, locale, name, style⟩

/-- The gradients in the order of the model. -/
def gradientEntries (model : Model) : List GradientEntry :=
  (model.gradients.getD []).flatMap fun (category, gradients) =>
    gradients.map fun (name, gradient) => ⟨category, name, gradient⟩

/-- Whether there is a text style. -/
def hasTypography (model : Model) : Bool :=
  !model.styles.isEmpty

/-- Whether there is a gradient. -/
def hasGradients (model : Model) : Bool :=
  !model.gradientEntries.isEmpty

/-- The distinct font families in the order of their first use. -/
def families (model : Model) : List String :=
  (model.styles.map fun entry => entry.style.family).foldl
    (fun seen family => if seen.contains family then seen else seen ++ [family]) []

/-- The distinct font sizes in ascending order. -/
def sizes (model : Model) : List Number :=
  Number.distinctAscending (model.styles.map fun entry => entry.style.size)

/-- The distinct line heights in ascending order. -/
def lineHeights (model : Model) : List Number :=
  Number.distinctAscending (model.styles.map fun entry => entry.style.lineHeight)

/-- The path of the first color. -/
def firstColorPath? (model : Model) : Option (List String) :=
  model.colors.leaves.head?.map Prod.fst

/-- The text styles as nested records of generated code. -/
def typographyJson (model : Model) : Json :=
  .object <| model.typography.mapValues fun locales =>
    .object <| locales.mapValues fun styles =>
      .object <| styles.mapValues fun style => .object style.toMembers

/-- Values for the text styles, nested by device, locale and a name derived from the
name of the style. Styles of one derived name share an entry, which has the value of
the last one. -/
def styleTree {α : Type} (model : Model) (rename : String → String)
    (value : StyleEntry → α) : Tree α :=
  model.styles.foldl
    (fun tree entry =>
      tree.setAt entry.device [entry.locale, rename entry.name] (.leaf (value entry)))
    .nil

end Model

end DesignTokens
