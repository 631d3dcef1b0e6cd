import DesignTokens.Json.Basic
import DesignTokens.Text.Quoted

/-!
# Plain text of a value

A style sheet takes a color value as it stands. A string is written without
quotes; within an array or an object strings are quoted as in messages.
-/

namespace DesignTokens.Json

mutual

/-- The text of a value inside an array or an object. -/
def nestedText : Json → String
  | .null => "None"
  | .bool true => "True"
  | .bool false => "False"
  | .number x => x.text
  | .string s => Text.quoted s
  | .array items => "[" ++ ", ".intercalate (itemTexts items) ++ "]"
  | .object members => "\x7b" ++ ", ".intercalate (memberTexts members) ++ "\x7d"

/-- The texts of the items of an array. -/
def itemTexts : List Json → List String
  | [] => []
  | item :: rest => nestedText item :: itemTexts rest

/-- The texts of the members of an object. -/
def memberTexts : List (String × Json) → List String
  | [] => []
  | (name, value) :: rest => (Text.quoted name ++ ": " ++ nestedText value) :: memberTexts rest

end

/-- The text of a value on its own. -/
def plainText : Json → String
  | .string s => s
  | value => nestedText value

@[simp] theorem plainText_string (s : String) : plainText (.string s) = s := rfl

end DesignTokens.Json
