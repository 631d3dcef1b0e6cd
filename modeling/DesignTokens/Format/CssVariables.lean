import DesignTokens.Format.Banner
import DesignTokens.Format.Basic
import DesignTokens.Format.Css
import DesignTokens.Json.Plain
import DesignTokens.Key.Kebab
import DesignTokens.Model.Basic

/-!
# CSS variables

One style sheet: every color, font family and gradient is a custom property of the
root, and every text style is a class.
-/

namespace DesignTokens.CssVariables

/-- The custom properties of the colors. -/
def colorVariables (model : Model) : List String :=
  model.colors.leaves.map fun (path, value) =>
    "  --color-" ++ Key.kebab ("-".intercalate path) ++ ": " ++ value.plainText ++ ";"

/-- The custom properties of the font families. -/
def familyVariables (model : Model) : List String :=
  model.families.map fun family =>
    "  --font-family-" ++ Key.kebab family ++ ": " ++ Css.fontStack family ++ ";"

/-- The custom properties of the gradients. -/
def gradientVariables (model : Model) : Except Number.DigitFault (List String) :=
  model.gradientEntries.mapM fun entry => do
    let drawn ← Css.gradient entry.gradient
    .ok ("  --gradient-" ++ entry.category ++ "-" ++ entry.name ++ ": " ++ drawn ++ ";")

/-- The class of a text style. -/
def styleClass (entry : StyleEntry) : String :=
  ".typo-" ++ entry.device ++ "-" ++ entry.locale ++ "-" ++ entry.name ++ " \x7b\n" ++
    Text.joinLines (Css.declarations "  " entry.style) ++ "\n\x7d\n\n"

/-- The comment that stands before the classes of a device. -/
def deviceComment (device : String) : String :=
  "\n/* " ++ String.ofList (Text.upper device.toList) ++ " */\n"

/-- The classes of the text styles, with a comment wherever the device changes. -/
def styleClasses (device : Option String) : List StyleEntry → List String
  | [] => []
  | entry :: rest =>
    (if device = some entry.device then [] else [deviceComment entry.device]) ++
      styleClass entry :: styleClasses (some entry.device) rest

/-- The style sheet. -/
def stylesheet (model : Model) : Except Number.DigitFault String := do
  let gradients ← gradientVariables model
  let lines :=
    [":root \x7b", "  /* ========== COLORS ========== */"] ++ colorVariables model ++
    (if model.hasTypography then
      ["", "  /* ========== FONT FAMILIES ========== */"] ++ familyVariables model
    else []) ++
    (if model.hasGradients then
      ["", "  /* ========== GRADIENTS ========== */"] ++ gradients
    else []) ++
    ["\x7d"]
  let classes :=
    if model.hasTypography then
      "\n/* ========== TYPOGRAPHY CLASSES ========== */\n" ++
        String.join (styleClasses none model.styles)
    else ""
  .ok (Banner.fixed "Design Token CSS Variables" ++ "\n" ++ Text.joinLines lines ++ "\n" ++
    classes)

/-- The files of the format. -/
def artifacts (model : Model) : Except Number.DigitFault (List Artifact) := do
  .ok [⟨"tokens.css", "css", ← stylesheet model⟩]

end DesignTokens.CssVariables
