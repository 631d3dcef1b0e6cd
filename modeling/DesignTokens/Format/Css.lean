import DesignTokens.Gradient
import DesignTokens.Text.Case
import DesignTokens.Text.Search
import DesignTokens.TextStyle

/-!
# Style sheet values

The declarations of a text style and the functions that draw gradients.
-/

namespace DesignTokens.Css

/-- A font family with a fallback, as a declaration states it. -/
def fontStack (family : String) : String :=
  "'" ++ family ++ "', sans-serif"

/-- The declarations of a text style, each on a line of its own. Letters are spaced
only where the style says so. -/
def declarations (indent : String) (style : TextStyle) : List String :=
  [indent ++ "font-family: " ++ fontStack style.family ++ ";",
    indent ++ "font-size: " ++ style.size.pixels ++ ";",
    indent ++ "font-weight: " ++ style.weight.cssText ++ ";",
    indent ++ "line-height: " ++ style.lineHeight.pixels ++ ";"] ++
  if style.isSpaced then [indent ++ "letter-spacing: " ++ style.letterSpacing.pixels ++ ";"]
  else []

/-- A stop as a color and a percentage. A position that keeps to the limit of digits may
have a percentage that does not, of two digits more. -/
def stop (s : GradientStop) : Except Number.DigitFault String := do
  let percentage ← s.position.percentage.limitedText
  .ok (s.color ++ " " ++ percentage ++ "%")

/-- The gradient functions. -/
inductive GradientShape where
  | radial
  | conic
  | linear
  deriving DecidableEq, Repr

/-- The function that draws a type of gradient, named in any case. -/
def shapeOf (kind : String) : GradientShape :=
  let name := Text.lower kind.toList
  if Text.occursIn "radial".toList name then .radial
  else if Text.occursIn "angular".toList name || Text.occursIn "conic".toList name then .conic
  else .linear

/-- A gradient as a style sheet value. Its rotation is taken to keep to the limit of
digits, like all numbers that are not computed (`Model.Loaded.limited`). -/
def gradient (g : Gradient) : Except Number.DigitFault String := do
  let stops := ", ".intercalate (← g.stops.mapM stop)
  match shapeOf g.kind with
  | .radial => .ok ("radial-gradient(circle, " ++ stops ++ ")")
  | .conic => .ok ("conic-gradient(from " ++ g.rotation.cssText ++ "deg, " ++ stops ++ ")")
  | .linear => .ok ("linear-gradient(" ++ g.rotation.cssText ++ "deg, " ++ stops ++ ")")

end DesignTokens.Css
