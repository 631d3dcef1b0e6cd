import DesignTokens.Model.Check
import DesignTokens.Shape.Given

/-!
# Models built from sections

A model is built from its colors, its styles and its gradients, which are checked when that is
done. The styles and gradients may be records that have passed a check before. Locales without
styles and devices without locales are dropped.
-/

namespace DesignTokens.Model

open Shape (Given)

/-- Whether a locale holds no style. -/
def isEmptyLocale (styles : Given TextStyle) : Bool :=
  match styles.members? with
  | some [] => true
  | _ => false

/-- A device without its empty locales, unless none is left. -/
def occupiedDevice? (device : String × Given TextStyle) : Option (String × Given TextStyle) :=
  match device.2.members? with
  | some locales =>
    match locales.filter fun entry => !isEmptyLocale entry.2 with
    | [] => none
    | kept => some (device.1, .mapping kept)
  | none => some device

/-- The styles of a model by device, locale and name. -/
def buildTypography (given : Given TextStyle) :
    Shape.Checked (Entries (Entries (Entries TextStyle))) :=
  let dropped := match given.members? with
    | some devices => .mapping (devices.filterMap occupiedDevice?)
    | none => given
  Given.mappingOf (Given.mappingOf (Given.mappingOf (Given.recordOf TextStyle.check))) dropped

/-- The gradients of a model by category and name; null means that there is no such section. -/
def buildGradients : Given Gradient → Shape.Checked (Option (Entries (Entries Gradient)))
  | .plain .null => .ok none
  | given => (Given.mappingOf (Given.mappingOf (Given.recordOf Gradient.check)) given).map some

/-- The model that is built from its sections. -/
def build (colors : Json) (typography : Given TextStyle) (gradients : Given Gradient) :
    Shape.Checked Model :=
  let colors := Shape.below "colors" (checkColors colors)
  let typography := Shape.below "typography" (buildTypography typography)
  let gradients := Shape.below "gradients" (buildGradients gradients)
  Shape.both (Shape.both (colors.map mk) typography) gradients

end DesignTokens.Model
