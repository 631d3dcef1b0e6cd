import DesignTokens.Text.CodeRange
import DesignTokens.Text.IdentifierTable

/-!
# Identifier characters

Generated code names constants after tokens. A character is kept in such a name
when it may stand in an identifier after the first character.
-/

namespace DesignTokens.Text

/-- A character that may follow the first character of an identifier. -/
def continuesIdentifier (c : Char) : Bool :=
  inRanges identifierRanges c

end DesignTokens.Text
