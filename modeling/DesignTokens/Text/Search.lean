/-!
# Searching in texts
-/

namespace DesignTokens.Text

/-- Whether a text occurs in another one. -/
def occursIn (part : List Char) : List Char → Bool
  | [] => part.isEmpty
  | c :: rest => part.isPrefixOf (c :: rest) || occursIn part rest

@[simp] theorem occursIn_nil_left (whole : List Char) : occursIn [] whole = true := by
  cases whole <;> rfl

end DesignTokens.Text
