import DesignTokens.Model.Basic

/-!
# Models given as records

A model may be given as a record with the fields `colors`, `typography` and
`gradients`, all of which may be left out. Locales without styles and devices
without locales are dropped before the styles are checked.
-/

namespace DesignTokens.Model

/-- Whether a locale holds no style. -/
def isEmptyObject : Json → Bool
  | .object [] => true
  | _ => false

/-- The locales of a device that are not empty. -/
def withoutEmptyLocales (locales : Entries Json) : Entries Json :=
  locales.filter fun entry => !isEmptyObject entry.2

/-- The devices with their empty locales dropped, and without those left with none. -/
def withoutEmptyDevices (devices : Entries Json) : Entries Json :=
  devices.filterMap fun (device, locales) =>
    match locales with
    | .object members =>
      match withoutEmptyLocales members with
      | [] => none
      | kept => some (device, .object kept)
    | other => some (device, other)

/-- The text styles that a record gives by device, locale and name. -/
def checkTypography (value : Json) : Shape.Checked (Entries (Entries (Entries TextStyle))) :=
  let dropped := match value with
    | .object devices => .object (withoutEmptyDevices devices)
    | other => other
  Shape.mapping (Shape.mapping (Shape.mapping (Shape.record TextStyle.check))) dropped

/-- The gradients that a record gives by category and name; null means that there is
no such section. -/
def checkGradients : Json → Shape.Checked (Option (Entries (Entries Gradient)))
  | .null => .ok none
  | value => (Shape.mapping (Shape.mapping (Shape.record Gradient.check)) value).map some

/-- The colors that a record gives. -/
def checkColors : Json → Shape.Checked (Tree Json)
  | .object members => .ok (Tree.ofMembers members)
  | _ => Shape.problem .notMapping

/-- The model that the fields of a record give. -/
def checkFields (fields : Entries Json) : Shape.Checked Model :=
  let colors := Shape.optionalField "colors" [] .nil checkColors fields
  let typography := Shape.optionalField "typography" [] [] checkTypography fields
  let gradients := Shape.optionalField "gradients" [] none checkGradients fields
  Shape.both (Shape.both (colors.map mk) typography) gradients

/-- The model that a value gives. -/
def check (value : Json) : Shape.Checked Model :=
  Shape.record checkFields value

end DesignTokens.Model
