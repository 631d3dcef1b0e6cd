import DesignTokens.Key.Words

/-!
# Kebab case

A name is cut into segments of ASCII letters and digits: anything else separates
segments, and so does the step from a lower-case letter to an upper-case one. The
kebab form of a name joins its segments, in lower case, with single hyphens.
-/

namespace DesignTokens.Key

/-- An ASCII letter or digit. -/
def isPlain (c : Char) : Bool :=
  c.isAlphanum

/-- A hyphen is put between a lower-case letter and the upper-case letter after it. -/
def separateHumps : List Char → List Char
  | [] => []
  | c :: rest =>
    match rest with
    | [] => [c]
    | next :: _ =>
      if c.isLower && next.isUpper then c :: '-' :: separateHumps rest
      else c :: separateHumps rest

/-- The segments of a name, in lower case. -/
def segments (name : String) : List String :=
  (words (fun c => !isPlain c) (separateHumps name.toList)).map
    fun word => String.ofList (word.map Char.toLower)

/-- The kebab form of a name. -/
def kebab (name : String) : String :=
  "-".intercalate (segments name)

/-- A name below another one; a name at the top stands alone. -/
def joinPath (parent name : String) : String :=
  if parent.isEmpty then name else parent ++ "-" ++ name

/-- A name without its hyphens. -/
def withoutHyphens (name : String) : String :=
  String.ofList (name.toList.filter (· ≠ '-'))

end DesignTokens.Key
