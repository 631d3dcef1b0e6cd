/-!
# Rounding a quotient

A quotient is rounded to the nearest whole number, and a tie goes to the even one.
-/

namespace DesignTokens.Number

/-- The whole number nearest to `num / den`; a tie goes to the even neighbour. -/
def nearestQuotient (num den : Nat) : Nat :=
  let below := num / den
  let twice := 2 * (num % den)
  if twice < den then below
  else if den < twice then below + 1
  else if below % 2 = 0 then below
  else below + 1

theorem nearestQuotient_mul (n : Nat) {den : Nat} (h : 0 < den) :
    nearestQuotient (n * den) den = n := by
  simp [nearestQuotient, Nat.mul_div_cancel n h, h]

theorem nearestQuotient_ge (num den : Nat) : num / den ≤ nearestQuotient num den := by
  simp only [nearestQuotient]
  split <;> (try split) <;> (try split) <;> omega

theorem nearestQuotient_le (num den : Nat) : nearestQuotient num den ≤ num / den + 1 := by
  simp only [nearestQuotient]
  split <;> (try split) <;> (try split) <;> omega

end DesignTokens.Number
