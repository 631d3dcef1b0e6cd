/-!
# Ranges of code points

A character property is a list of closed ranges of code points, and a character
has the property when one of the ranges holds its code point.
-/

namespace DesignTokens.Text

/-- A character lies in a table when one of its ranges holds the code point. -/
def inRanges (ranges : List (Nat × Nat)) (c : Char) : Bool :=
  ranges.any fun range => range.1 ≤ c.toNat && c.toNat ≤ range.2

theorem inRanges_iff (ranges : List (Nat × Nat)) (c : Char) :
    inRanges ranges c = true ↔
      ∃ range ∈ ranges, range.1 ≤ c.toNat ∧ c.toNat ≤ range.2 := by
  simp [inRanges]

@[simp] theorem inRanges_nil (c : Char) : inRanges [] c = false := rfl

end DesignTokens.Text
