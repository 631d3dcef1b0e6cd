import DesignTokens.Proofs.Number.Texts
import Mathlib.Data.List.Nodup

/-!
# Texts tell numbers apart

Different numbers have different texts: the text of a finite number is read back as the number,
and the names of what is not finite are read as no number. In a style sheet whole doubles are
written as integers are, so there it is the stored numbers that are told apart.
-/

namespace DesignTokens.Number

/-- Neither infinite nor not a number. -/
def isFinite : Number → Bool
  | .integer _ => true
  | .real (.finite _ _) => true
  | .real _ => false

variable {x y : Number}

/-- A finite number is read back in front of anything that continues no number. -/
theorem scan_text_append_of_isFinite (finite : x.isFinite = true) {rest : List Char}
    (ends : NoNumberNext rest) : scan (x.text.toList ++ rest) = some (x, rest) := by
  cases x with
  | integer n =>
      rw [text, String.toList_ofList]
      exact scan_integerText n ends
  | real double =>
      cases double with
      | finite negative rank =>
          rw [text, String.toList_ofList]
          exact scan_finite_text negative rank ends
      | infinite negative => cases finite
      | nan => cases finite

theorem scan_text_of_isFinite (finite : x.isFinite = true) :
    scan x.text.toList = some (x, []) := by
  have ends : NoNumberNext [] := fun _ here => nomatch here
  have scanned := scan_text_append_of_isFinite finite ends
  rwa [List.append_nil] at scanned

theorem scan_text_of_not_isFinite (infinite : x.isFinite = false) :
    scan x.text.toList = none := by
  cases x with
  | integer n => cases infinite
  | real double =>
      cases double with
      | finite negative rank => cases infinite
      | infinite negative => cases negative <;> rfl
      | nan => rfl

/-- The names of what is not finite differ. -/
theorem eq_of_text_eq_of_not_isFinite (first : x.isFinite = false) (second : y.isFinite = false)
    (same : x.text = y.text) : x = y := by
  have named : ∀ x : Number, x.isFinite = false →
      x ∈ [.real (.infinite false), .real (.infinite true), .real .nan] := by
    intro x infinite
    cases x with
    | integer n => cases infinite
    | real double =>
        cases double with
        | finite negative rank => cases infinite
        | infinite negative => cases negative <;> simp
        | nan => simp
  have apart : ([.real (.infinite false), .real (.infinite true), .real .nan].map text).Nodup := by
    decide
  exact List.inj_on_of_nodup_map apart (named x first) (named y second) same

/-- Different numbers have different texts. -/
theorem text_injective : Function.Injective text := by
  intro x y same
  cases first : x.isFinite with
  | true =>
      have own := scan_text_of_isFinite first
      rw [same] at own
      cases second : y.isFinite with
      | true =>
          rw [scan_text_of_isFinite second, Option.some.injEq, Prod.mk.injEq] at own
          exact own.1.symm
      | false =>
          rw [scan_text_of_not_isFinite second] at own
          cases own
  | false =>
      have own := scan_text_of_not_isFinite first
      rw [same] at own
      cases second : y.isFinite with
      | true =>
          rw [scan_text_of_isFinite second] at own
          cases own
      | false => exact eq_of_text_eq_of_not_isFinite first second same

theorem cssText_of_stored (stored : x.normalize = x) : x.cssText = x.text := by
  rw [cssText, stored]

/-- Stored numbers are told apart in a style sheet. -/
theorem eq_of_cssText_eq (first : x.normalize = x) (second : y.normalize = y)
    (same : x.cssText = y.cssText) : x = y := by
  rw [cssText_of_stored first, cssText_of_stored second] at same
  exact text_injective same

end DesignTokens.Number
