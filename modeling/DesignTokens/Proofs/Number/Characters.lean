import DesignTokens.Proofs.Number.Texts

/-!
# Characters of number texts

The text of a number is made of digits, signs, the decimal mark, the letter in front of an
exponent and the letters of the names that stand for what is not finite. No other character
occurs, so such a text is on one line and is never a word with other letters.
-/

namespace DesignTokens.Number

/-- A character that the text of a number may have. -/
def isTextChar (c : Char) : Bool :=
  c.isDigit || ['-', '+', '.', 'e', 'i', 'n', 'f', 'a'].contains c

/-- A text of characters that numbers may have. -/
def NumberChars (text : List Char) : Prop :=
  ∀ c ∈ text, isTextChar c = true

instance (text : List Char) : Decidable (NumberChars text) :=
  decidable_of_iff (text.all isTextChar = true) List.all_eq_true

section NumberChars

variable {c : Char} {first second text digits : List Char}

theorem numberChars_cons :
    NumberChars (c :: text) ↔ isTextChar c = true ∧ NumberChars text :=
  List.forall_mem_cons

theorem numberChars_append :
    NumberChars (first ++ second) ↔ NumberChars first ∧ NumberChars second :=
  List.forall_mem_append

/-- Other characters do not occur. -/
theorem NumberChars.not_mem (chars : NumberChars text) (other : isTextChar c = false) :
    c ∉ text := by
  intro mem
  rw [chars c mem] at other
  cases other

theorem AllDigits.numberChars (all : AllDigits digits) : NumberChars digits := by
  intro c mem
  rw [isTextChar, all c mem, Bool.true_or]

theorem numberChars_digitsOf (n : Nat) : NumberChars (digitsOf n) :=
  (allDigits_digitsOf n).numberChars

theorem numberChars_replicate_zero (count : Nat) : NumberChars (List.replicate count '0') :=
  (allDigits_replicate_zero count).numberChars

end NumberChars

namespace Decimal

variable {digits : List Char}

theorem numberChars_positional (all : AllDigits digits) (point : Int) :
    NumberChars (positional digits point) := by
  have taken : NumberChars (digits.take point.toNat) := fun c mem =>
    all.numberChars c (List.mem_of_mem_take mem)
  have dropped : NumberChars (digits.drop point.toNat) := fun c mem =>
    all.numberChars c (List.mem_of_mem_drop mem)
  have zero : isTextChar '0' = true := by decide
  have mark : isTextChar '.' = true := by decide
  unfold positional
  split
  case isTrue =>
      simp only [List.cons_append, numberChars_cons, numberChars_append]
      exact ⟨zero, mark, numberChars_replicate_zero _, all.numberChars⟩
  case isFalse =>
      split
      case isTrue =>
          simp only [numberChars_append, numberChars_cons]
          exact ⟨⟨all.numberChars, numberChars_replicate_zero _⟩, mark, zero,
            List.forall_mem_nil _⟩
      case isFalse =>
          simp only [numberChars_append, numberChars_cons]
          exact ⟨taken, mark, dropped⟩

theorem numberChars_exponentText (power : Int) : NumberChars (exponentText power) := by
  have letter : isTextChar 'e' = true := by decide
  have sign : isTextChar (if power < 0 then '-' else '+') = true := by split <;> decide
  simp only [exponentText, numberChars_cons, numberChars_append]
  exact ⟨letter, sign, numberChars_replicate_zero _, numberChars_digitsOf _⟩

theorem numberChars_scientific (all : AllDigits digits) (nonempty : digits ≠ []) (power : Int) :
    NumberChars (scientific digits power) := by
  have own := all.numberChars
  cases digits with
  | nil => exact absurd rfl nonempty
  | cons d more =>
      cases more with
      | nil =>
          rw [scientific_singleton, numberChars_append]
          exact ⟨own, numberChars_exponentText power⟩
      | cons e others =>
          have mark : isTextChar '.' = true := by decide
          rw [numberChars_cons] at own
          simp only [scientific_cons_cons, List.cons_append, List.nil_append, numberChars_cons,
            numberChars_append]
          rw [numberChars_cons] at own
          exact ⟨own.1, mark, own.2.1, own.2.2, numberChars_exponentText power⟩

theorem numberChars_text (x : Decimal) : NumberChars x.text := by
  have all := allDigits_digitsOf x.digits
  have signed : ∀ unsigned : List Char, NumberChars unsigned →
      NumberChars (if x.negative then '-' :: unsigned else unsigned) := by
    intro unsigned chars
    split
    · exact numberChars_cons.mpr ⟨by decide, chars⟩
    · exact chars
  simp only [text]
  apply signed
  split
  · decide
  · split
    · exact numberChars_positional all _
    · exact numberChars_scientific all (digitsOf_ne_nil _) _

end Decimal

/-- The text of a number has no other characters. -/
theorem numberChars_text (x : Number) : NumberChars x.text.toList := by
  cases x with
  | integer n =>
      rw [text, String.toList_ofList]
      cases n with
      | ofNat m => exact numberChars_digitsOf m
      | negSucc m => exact numberChars_cons.mpr ⟨by decide, numberChars_digitsOf _⟩
  | real y =>
      rw [text, String.toList_ofList]
      cases y with
      | finite negative rank => exact Decimal.numberChars_text _
      | infinite negative => cases negative <;> decide
      | nan => decide

theorem feed_not_mem_text (x : Number) : '\n' ∉ x.text.toList :=
  x.numberChars_text.not_mem (by decide)

end DesignTokens.Number
