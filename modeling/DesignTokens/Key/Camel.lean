import DesignTokens.Key.Words
import DesignTokens.Text.Blank
import DesignTokens.Text.Case

/-!
# Camel case

White space, low lines and hyphens separate the words of a name. The first word
starts with a small letter and every other one with a capital.
-/

namespace DesignTokens.Key

/-- A character between two words of a name. -/
def separatesWords (c : Char) : Bool :=
  Text.isBlank c || c == '_' || c == '-'

/-- The words of a name joined with the first one small and the others capital. -/
def camelOf : List (List Char) → List Char
  | [] => []
  | first :: others => Text.lowerFirst first ++ others.flatMap Text.upperFirst

/-- The camel form of a name. -/
def camel (name : String) : String :=
  String.ofList (camelOf (words separatesWords name.toList))

/-- A name that starts with a capital. -/
def capitalized (name : String) : String :=
  String.ofList (Text.upperFirst name.toList)

end DesignTokens.Key
