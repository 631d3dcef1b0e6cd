import DesignTokens.Gradient
import DesignTokens.Shape.Given

/-!
# Payloads of gradients

The value of a gradient token is checked first, and the gradient is then built from what the
check has given. Stops are stored when they are checked; the rotation is stored only when the
gradient is built.
-/

namespace DesignTokens

namespace Shape

/-- A number as it is given. -/
def givenNumber : Json → Checked Number
  | .number x => .ok x
  | .bool b => .ok (.integer (if b then 1 else 0))
  | .string s =>
    match Number.ofText? s with
    | some x => .ok x
    | none => .error [⟨["int"], .unreadableInteger⟩, ⟨["float"], .unreadableFraction⟩]
  | _ => .error [⟨["int"], .notInteger⟩, ⟨["float"], .notFraction⟩]

end Shape

/-- What the value of a gradient token gives. -/
structure GradientPayload where
  kind : String
  rotation : Number
  stops : List GradientStop
  deriving DecidableEq, Repr, Inhabited

namespace GradientPayload

/-- The payload that a record gives. -/
def check (record : Entries Json) : Shape.Checked GradientPayload :=
  let kind := Shape.field "gradientType" ["gradient_type"] Shape.string record
  let rotation := Shape.field "rotation" [] Shape.givenNumber record
  let stops :=
    Shape.field "stops" [] (Shape.items .notList (Shape.record GradientStop.check)) record
  Shape.both (Shape.both (kind.map mk) rotation) stops

/-- The fields that a gradient is built from. -/
def toFields (payload : GradientPayload) : Entries (Shape.Given GradientStop) :=
  [("type", .plain (.string payload.kind)), ("rotation", .plain (.number payload.rotation)),
    ("stops", .list (payload.stops.map .record))]

end GradientPayload

/-- The gradient that is built from fields; stops may be left out. -/
def Gradient.build (fields : Entries (Shape.Given GradientStop)) : Shape.Checked Gradient :=
  let kind := Shape.field "type" [] Shape.Given.string fields
  let rotation := Shape.field "rotation" [] Shape.Given.number fields
  let stops :=
    Shape.optionalField "stops" [] []
      (Shape.Given.items .notSequence (Shape.Given.recordOf GradientStop.check)) fields
  Shape.both (Shape.both (kind.map Gradient.mk) rotation) stops

end DesignTokens
