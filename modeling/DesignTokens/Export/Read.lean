import DesignTokens.Export.Colors
import DesignTokens.Export.Gradients
import DesignTokens.Export.Typography
import DesignTokens.Model.Basic

/-!
# Reading an export

Of an export only the sections `color`, `font` and `gradient` are read, each if it
is an object. Reading never fails: what cannot be used is skipped and reported.
-/

namespace DesignTokens.Export

/-- The members of a section that is an object. -/
def section? (name : String) (sections : Entries Json) : Option (List (String × Json)) :=
  (sections.get? name).bind Json.members?

/-- The names of the sections that are not read. -/
def otherSections (sections : Entries Json) : List String :=
  sections.names.filter fun name => name ≠ "color" ∧ name ≠ "font" ∧ name ≠ "gradient"

/-- The model that an export describes. There are gradients only if the export has a
section for them. -/
def model (sections : Entries Json) : Model where
  colors := (colors "" ((section? "color" sections).getD [])).map .string
  typography := typography ((section? "font" sections).getD [])
  gradients := (section? "gradient" sections).map gradients

/-- What becomes of the nodes of all sections, in the order of their visit. -/
def fates (sections : Entries Json) : List Fate :=
  colorFates "" ((section? "color" sections).getD []) ++
    fontFates ((section? "font" sections).getD []) ++
    gradientFates "" ((section? "gradient" sections).getD [])

/-- The notices about an export in their order. -/
def notices (sections : Entries Json) : List Notice :=
  let ignored := match otherSections sections with
    | [] => []
    | names => [.sectionsIgnored names]
  let found := model sections
  noticesOf (fates sections) ++ ignored ++
    [.found found.styles.length found.gradientEntries.length]

end DesignTokens.Export
