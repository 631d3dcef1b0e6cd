import DesignTokens.Number.Binary64
import Mathlib.Tactic.Ring

/-!
# Decimals and the doubles nearest to them

Rounding depends on the value of a quotient alone, it gives every double back, and whole
numbers that are too great are infinite. So a decimal fraction is rounded as a quotient by a
fixed power of ten, and two ways of writing one fraction are rounded to one double.
-/

namespace DesignTokens.Number

theorem nearestQuotient_mul_mul (num den : Nat) {factor : Nat} (pos : 0 < factor) :
    nearestQuotient (num * factor) (den * factor) = nearestQuotient num den := by
  have doubled : 2 * (num % den * factor) = 2 * (num % den) * factor := by ring
  have less : ∀ a b, a * factor < b * factor ↔ a < b := fun _ _ => Nat.mul_lt_mul_right pos
  simp only [nearestQuotient, Nat.mul_div_mul_right num den pos, Nat.mul_mod_mul_right, doubled,
    less]

namespace Binary64

theorem two_pow_mul_unitsPerOne (power : Nat) : 2 ^ power * unitsPerOne = 2 ^ (power + 1074) := by
  unfold unitsPerOne
  generalize 1074 = unit
  rw [Nat.pow_eq, Nat.pow_add]

theorem unitsPerOne_pos : 0 < unitsPerOne := by
  unfold unitsPerOne
  generalize 1074 = unit
  exact Nat.two_pow_pos unit

theorem significands_eq : significands = 2 ^ 52 := rfl

theorem significands_pos : 0 < significands := Nat.two_pow_pos 52

/-- A quotient is rounded by its value. -/
theorem nearestRank_mul_mul (num den : Nat) {factor : Nat} (pos : 0 < factor) :
    nearestRank (num * factor) (den * factor) = nearestRank num den := by
  have inUnits : num * factor * unitsPerOne = num * unitsPerOne * factor := by ring
  have inScale : ∀ shift, den * factor * Nat.pow 2 shift = den * Nat.pow 2 shift * factor :=
    fun _ => by ring
  simp only [nearestRank, inUnits, inScale, Nat.mul_div_mul_right _ den pos,
    nearestQuotient_mul_mul _ _ pos]

@[simp] theorem nearestRank_zero (den : Nat) : nearestRank 0 den = 0 := by
  simp [nearestRank, nearestQuotient]

theorem significand_mem {rank : Nat} (large : significands ≤ rank) :
    significands ≤ significand rank ∧ significand rank < 2 * significands := by
  have rest := Nat.mod_lt rank significands_pos
  rw [significand, if_neg (by omega)]
  omega

theorem log2_units_of_ge {rank : Nat} (large : significands ≤ rank) :
    Nat.log2 (units rank) = 52 + scale rank := by
  obtain ⟨least, most⟩ := significand_mem large
  rw [significands_eq] at least most
  have pos := Nat.two_pow_pos (scale rank)
  have nonzero : units rank ≠ 0 := by
    rw [units, Nat.pow_eq]
    exact Nat.mul_ne_zero (by omega) (by omega)
  rw [Nat.log2_eq_iff nonzero, units, Nat.pow_eq, Nat.pow_add, Nat.add_right_comm, Nat.pow_add]
  exact ⟨Nat.mul_le_mul_right _ least, Nat.mul_lt_mul_of_pos_right (by omega) pos⟩

/-- The magnitude of a double is rounded to the double. -/
theorem nearestRank_units (rank : Nat) : nearestRank (units rank) unitsPerOne = rank := by
  have whole : units rank * unitsPerOne / unitsPerOne = units rank :=
    Nat.mul_div_cancel _ unitsPerOne_pos
  rw [nearestRank, whole]
  rcases Nat.lt_or_ge rank significands with small | large
  case inl =>
      have shift : Nat.log2 rank - 52 = 0 := by
        rcases Nat.eq_zero_or_pos rank with rfl | pos
        · rfl
        · have bound := (Nat.log2_lt (by omega)).mpr (significands_eq ▸ small)
          omega
      rw [units_eq_of_lt small, shift]
      simp only [Nat.zero_mul, Nat.pow_eq, Nat.pow_zero, Nat.mul_one, Nat.zero_add]
      exact nearestQuotient_mul rank unitsPerOne_pos
  case inr =>
      have shift : Nat.log2 (units rank) - 52 = scale rank := by
        rw [log2_units_of_ge large]
        omega
      have same : units rank * unitsPerOne =
          significand rank * (unitsPerOne * Nat.pow 2 (scale rank)) := by
        rw [units]
        ring
      have pos : 0 < unitsPerOne * Nat.pow 2 (scale rank) :=
        Nat.mul_pos unitsPerOne_pos (Nat.two_pow_pos _)
      rw [shift, same, nearestQuotient_mul _ pos, significand, if_neg (by omega), scale]
      have parts := Nat.div_add_mod rank significands
      obtain ⟨scales, h⟩ := Nat.exists_eq_add_of_le'
        ((Nat.one_le_div_iff significands_pos).mpr large)
      rw [h, Nat.mul_add] at parts
      rw [h, Nat.add_sub_cancel, Nat.mul_comm scales]
      omega

/-- Whole numbers from the first power of two that is out of range on are out of range. -/
theorem rankLimit_le_nearestRank {n : Nat} (large : 2 ^ 1024 ≤ n) :
    rankLimit ≤ nearestRank n 1 := by
  rw [nearestRank, Nat.div_one, Nat.one_mul]
  have inUnits := Nat.mul_le_mul_right unitsPerOne large
  rw [two_pow_mul_unitsPerOne] at inUnits
  generalize n * unitsPerOne = magnitude at inUnits
  have nonzero : magnitude ≠ 0 := by
    have pos := Nat.two_pow_pos (1024 + 1074)
    omega
  obtain ⟨shift, h⟩ : ∃ shift, magnitude.log2 = shift + 52 :=
    Nat.exists_eq_add_of_le' (Nat.le_trans (by omega) ((Nat.le_log2 nonzero).mpr inUnits))
  have high : 2046 ≤ shift := by
    have log := (Nat.le_log2 nonzero).mpr inUnits
    omega
  have top : significands ≤ nearestQuotient magnitude (Nat.pow 2 shift) := by
    refine Nat.le_trans ?_ (nearestQuotient_ge _ _)
    rw [Nat.pow_eq, Nat.le_div_iff_mul_le (Nat.two_pow_pos _), significands_eq, ← Nat.pow_add,
      Nat.add_comm, ← h]
    exact Nat.log2_self_le nonzero
  have scales := Nat.mul_le_mul_right significands high
  have limit : rankLimit = 2046 * significands + significands := rfl
  rw [h, Nat.add_sub_cancel, limit]
  omega

theorem two_pow_le_mul_ten_pow {bound digits power : Nat} (nonzero : digits ≠ 0)
    (high : bound ≤ 3 * power) : 2 ^ bound ≤ digits * 10 ^ power := by
  calc 2 ^ bound
      ≤ 2 ^ (3 * power) := Nat.pow_le_pow_right (by decide) high
    _ = 8 ^ power := Nat.pow_mul 2 3 power
    _ ≤ 10 ^ power := Nat.pow_le_pow_left (by decide) power
    _ ≤ digits * 10 ^ power := Nat.le_mul_of_pos_left _ (Nat.pos_of_ne_zero nonzero)

theorem ofQuotient_of_whole (negative : Bool) (digits power places : Nat) :
    ofQuotient negative (digits * 10 ^ (power + places)) (10 ^ places) =
      ofQuotient negative (digits * 10 ^ power) 1 := by
  have scaled := nearestRank_mul_mul (digits * 10 ^ power) 1 (Nat.pow_pos (n := places)
    (by decide : 0 < 10))
  rw [ofQuotient, ofQuotient, ← scaled, Nat.one_mul, Nat.pow_add, Nat.mul_assoc]

/-- A decimal fraction is rounded as a quotient by a fixed power of ten. -/
theorem ofDecimal_eq_ofQuotient {x : Decimal} {places : Nat} (least : -(places : Int) ≤ x.exponent)
    (few : places ≤ 2000) :
    ofDecimal x =
      ofQuotient x.negative (x.digits * 10 ^ (x.exponent + places).toNat) (10 ^ places) := by
  unfold ofDecimal
  split
  case isTrue zero => rw [zero, Nat.zero_mul, ofQuotient, nearestRank_zero]
  case isFalse nonzero =>
      rcases lt_or_ge x.exponent 0 with fraction | whole
      case inl =>
          have sum : places = (-x.exponent).toNat + (x.exponent + places).toNat := by omega
          have scaled := nearestRank_mul_mul x.digits (10 ^ (-x.exponent).toNat)
            (Nat.pow_pos (n := (x.exponent + places).toNat) (by decide : 0 < 10))
          rw [if_neg (by omega), if_neg (by omega), if_neg (by omega), ofQuotient, ofQuotient,
            Nat.pow_eq, ← scaled, ← Nat.pow_add, ← sum]
      case inr =>
          have sum : (x.exponent + places).toNat = x.exponent.toNat + places := by omega
          rw [sum, ofQuotient_of_whole, if_pos whole]
          -- Far out of range the reader goes by the exponent alone, and rounding agrees.
          split
          case isTrue large =>
              have room : 1024 ≤ 3 * x.exponent.toNat := by omega
              have out := rankLimit_le_nearestRank (two_pow_le_mul_ten_pow nonzero room)
              rw [ofQuotient, ofRank, dif_neg (Nat.not_lt.mpr out)]
          case isFalse => rw [Nat.pow_eq]

end Binary64

end DesignTokens.Number
