import DesignTokens.Shape.Basic

/-!
# Gradients

A gradient has a type, a rotation in degrees and color stops in their order. The
position of a stop is a fraction of the way from start to end.
-/

namespace DesignTokens

/-- A color at a position of a gradient. -/
structure GradientStop where
  position : Number
  color : String
  deriving DecidableEq, Repr, Inhabited

/-- A gradient with its stops in order. -/
structure Gradient where
  kind : String
  rotation : Number
  stops : List GradientStop
  deriving DecidableEq, Repr, Inhabited

namespace GradientStop

/-- The stop that a record gives. -/
def check (record : Entries Json) : Shape.Checked GradientStop :=
  Shape.both ((Shape.field "position" [] Shape.number record).map mk)
    (Shape.field "color" [] Shape.string record)

end GradientStop

namespace Gradient

/-- The gradient that the value of a token gives. -/
def checkPayload (record : Entries Json) : Shape.Checked Gradient :=
  let kind := Shape.field "gradientType" ["gradient_type"] Shape.string record
  let rotation := Shape.field "rotation" [] Shape.number record
  let stops :=
    Shape.field "stops" [] (Shape.items .notList (Shape.record GradientStop.check)) record
  Shape.both (Shape.both (kind.map mk) rotation) stops

/-- The gradient that a record of a model gives; stops may be left out. -/
def check (record : Entries Json) : Shape.Checked Gradient :=
  let kind := Shape.field "type" [] Shape.string record
  let rotation := Shape.field "rotation" [] Shape.number record
  let stops :=
    Shape.optionalField "stops" [] []
      (Shape.items .notSequence (Shape.record GradientStop.check)) record
  Shape.both (Shape.both (kind.map mk) rotation) stops

end Gradient

end DesignTokens
