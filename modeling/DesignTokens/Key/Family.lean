import DesignTokens.Text.Blank
import DesignTokens.Text.Case

/-!
# Keys of font families

A font family is known by two keys: a slug, in which white space becomes hyphens,
and a compact key of letters and digits alone. Both are in lower case.
-/

namespace DesignTokens.Key

/-- Every run of white space as one hyphen; `inRun` tells that the character before
was white space. -/
def hyphenateBlanks (inRun : Bool) : List Char → List Char
  | [] => []
  | c :: rest =>
    if Text.isBlank c then
      if inRun then hyphenateBlanks true rest else '-' :: hyphenateBlanks true rest
    else c :: hyphenateBlanks false rest

/-- A small ASCII letter or a digit. -/
def isCompact (c : Char) : Bool :=
  c.isLower || c.isDigit

/-- The slug of a font family. -/
def familySlug (family : String) : String :=
  String.ofList <|
    (hyphenateBlanks false (Text.lower family.toList)).filter fun c => isCompact c || c == '-'

/-- The compact key of a font family. -/
def familyCompact (family : String) : String :=
  String.ofList ((Text.lower family.toList).filter isCompact)

end DesignTokens.Key
