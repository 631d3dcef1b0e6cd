import DesignTokens.Number.Scan
import DesignTokens.Proofs.Number.Digits
import DesignTokens.Proofs.Number.Rounding

/-!
# Numbers within the limit of digits

A whole number of too many digits is not read. The numbers that a document holds stay within
the limit when they are stored, and so do numbers that are given as texts and whole numbers that
are given as doubles.
-/

namespace DesignTokens.Number

/-- A number that has no more digits than are read, unless it is a fraction. -/
def Limited : Number → Prop
  | .integer n => (digitsOf n.natAbs).length ≤ digitLimit
  | .real _ => True

instance : DecidablePred Limited
  | .integer _ => inferInstanceAs (Decidable (_ ≤ _))
  | .real _ => isTrue trivial

theorem limited_digit {n : Int} (single : n.natAbs < 10) : (integer n).Limited :=
  Nat.le_trans ((length_digitsOf_le_iff Nat.one_pos).mpr single) (by decide)

theorem limited_integer_of_lt {n : Int} (small : n.natAbs < 10 ^ digitLimit) :
    (integer n).Limited :=
  (length_digitsOf_le_iff (by decide)).mpr small

namespace Binary64

theorem significand_lt (rank : Nat) : significand rank < 2 ^ 53 := by
  rcases Nat.lt_or_ge rank significands with small | large
  · rw [significand, if_pos small]
    rw [significands_eq] at small
    omega
  · have most := (significand_mem large).2
    rw [significands_eq] at most
    omega

/-- Every finite double is less than the first power of two that is out of range. -/
theorem units_lt (rank : Fin rankLimit) : units rank < 2 ^ 1024 * unitsPerOne := by
  have below : rank.val / significands < 2047 :=
    Nat.div_lt_of_lt_mul (Nat.mul_comm significands 2047 ▸ rank.isLt)
  have scales : scale rank ≤ 2045 := by
    rw [scale]
    omega
  have bound : ∀ power, 53 + scale rank ≤ power → units rank < 2 ^ power := by
    intro power room
    rw [units, Nat.pow_eq]
    calc significand rank * 2 ^ scale rank
        < 2 ^ 53 * 2 ^ scale rank :=
          Nat.mul_lt_mul_of_pos_right (significand_lt rank) (Nat.two_pow_pos _)
      _ = 2 ^ (53 + scale rank) := (Nat.pow_add 2 53 _).symm
      _ ≤ 2 ^ power := Nat.pow_le_pow_right (by decide) room
  rw [two_pow_mul_unitsPerOne]
  exact bound _ (by omega)

theorem natAbs_truncate_lt (x : Binary64) : x.truncate.natAbs < 10 ^ digitLimit := by
  have room : 2 ^ 1024 ≤ 1 * 10 ^ digitLimit := two_pow_le_mul_ten_pow (by decide) (by decide)
  rw [Nat.one_mul] at room
  cases x with
  | finite negative rank =>
      have magnitude : (truncate (.finite negative rank)).natAbs = units rank / unitsPerOne := by
        cases negative with
        | true => exact Int.natAbs_neg _
        | false => rfl
      rw [magnitude]
      refine Nat.lt_of_lt_of_le (Nat.div_lt_of_lt_mul ?_) room
      rw [Nat.mul_comm]
      exact units_lt rank
  | infinite negative => exact Nat.pow_pos (by decide)
  | nan => exact Nat.pow_pos (by decide)

end Binary64

/-- The stored form of a number stays within the limit. -/
theorem Limited.normalize {x : Number} (limited : x.Limited) : x.normalize.Limited := by
  cases x with
  | integer n => exact limited
  | real y =>
      rw [Number.normalize]
      cases whole : y.toInt? with
      | none => trivial
      | some n =>
          simp only [Binary64.toInt?, Option.ite_none_right_eq_some, Option.some.injEq] at whole
          rw [← whole.2]
          exact limited_integer_of_lt (Binary64.natAbs_truncate_lt y)

/-- A number within the limit is written. -/
theorem limitedText_eq_ok {x : Number} (limited : x.Limited) : x.limitedText = .ok x.cssText := by
  have stored := limited.normalize
  unfold limitedText
  cases form : x.normalize with
  | integer n =>
      rw [form] at stored
      exact if_pos stored
  | real y => rfl

theorem length_spanMinus_le (s : List Char) : (spanMinus s).2.length ≤ s.length := by
  unfold spanMinus
  split
  · exact Nat.le_succ _
  · exact Nat.le_refl _

theorem limited_of_plainWhole? {s : List Char} {n : Int} (h : plainWhole? s = some n) :
    (integer n).Limited := by
  unfold plainWhole? at h
  simp only at h
  split at h
  case h_1 digits front =>
      obtain ⟨all, nonempty, whole⟩ := of_scanWhole front
      have shorter := length_spanMinus_le s
      rw [← whole, List.append_nil] at shorter
      simp only [Option.ite_none_right_eq_some, Option.some.injEq] at h
      obtain ⟨few, rfl⟩ := h
      rw [Limited, natAbs_signed]
      have own := length_digitsOf_digitsValue_le all nonempty
      omega
  case h_2 => cases h

/-- Numbers that are given as texts are within the limit. -/
theorem limited_of_ofText? {text : String} {x : Number} (h : ofText? text = some x) :
    x.Limited := by
  unfold ofText? at h
  simp only at h
  split at h
  case h_1 n whole =>
      cases h
      obtain ⟨stripped, _, plain⟩ := Option.bind_eq_some_iff.mp whole
      exact limited_of_plainWhole? plain
  case h_2 =>
      split at h
      case h_1 => cases h; trivial
      case h_2 =>
          obtain ⟨y, _, rfl⟩ := Option.map_eq_some_iff.mp h
          trivial

end DesignTokens.Number
