import DesignTokens.Shape.Basic

/-!
# Text styles

A text style is a font family with a size, a weight, a line height and a letter
spacing. A letter spacing of zero counts as none.
-/

namespace DesignTokens

/-- One text style. -/
structure TextStyle where
  family : String
  size : Number
  weight : Number
  lineHeight : Number
  letterSpacing : Number
  deriving DecidableEq, Repr, Inhabited

namespace TextStyle

/-- Whether letters are spaced. -/
def isSpaced (style : TextStyle) : Bool :=
  !style.letterSpacing.isZero

/-- A letter spacing; a vacant value means none. -/
def spacing (value : Json) : Shape.Checked Number :=
  if value.isVacant then .ok (.integer 0) else Shape.number value

/-- The style that a record gives. Fields are named in camel case or, where that is
missing, in snake case; other fields are ignored. -/
def check (record : Entries Json) : Shape.Checked TextStyle :=
  let family := Shape.field "fontFamily" ["font_family"] Shape.string record
  let size := Shape.field "fontSize" ["font_size"] Shape.number record
  let weight := Shape.field "fontWeight" ["font_weight"] Shape.number record
  let lineHeight := Shape.field "lineHeight" ["line_height"] Shape.number record
  let letterSpacing :=
    Shape.optionalField "letterSpacing" ["letter_spacing"] (.integer 0) spacing record
  Shape.both (Shape.both (Shape.both (Shape.both (family.map mk) size) weight) lineHeight)
    letterSpacing

/-- A style as a record of generated code, without a letter spacing of zero. -/
def toMembers (style : TextStyle) : Entries Json :=
  [("fontFamily", .string style.family), ("fontSize", .number style.size),
    ("fontWeight", .number style.weight), ("lineHeight", .number style.lineHeight)] ++
  if style.isSpaced then [("letterSpacing", .number style.letterSpacing)] else []

end TextStyle

end DesignTokens
