import DesignTokens.Number.Shortest
import DesignTokens.Proofs.Number.Rounding

/-!
# Shortest decimals read back

The decimal that a double is written as is rounded to the double, whatever its sign. The search
for it cannot fail, since the exact decimal is among the candidates, and dropping the zeros at
its end does not change its value.
-/

namespace DesignTokens.Number

namespace Binary64

theorem ofRank_eq_finite_iff {negative : Bool} {rank : Nat} {r : Fin rankLimit} :
    ofRank negative rank = .finite negative r ↔ rank = r.val := by
  unfold ofRank
  split
  case isTrue h => simp [Fin.ext_iff]
  case isFalse h =>
      have other : rank ≠ r.val := fun same => h (same ▸ r.isLt)
      simp [other]

/-- Zeros at the end of the digits may be moved into the exponent. -/
theorem ofDecimal_mul_ten_pow (negative : Bool) (digits zeros : Nat) {exponent : Int}
    (least : -2000 ≤ exponent) :
    ofDecimal ⟨negative, digits * 10 ^ zeros, exponent⟩ =
      ofDecimal ⟨negative, digits, exponent + zeros⟩ := by
  obtain ⟨places, least, few⟩ : ∃ places : Nat, -(places : Int) ≤ exponent ∧ places ≤ 2000 :=
    ⟨2000, least, Nat.le_refl _⟩
  have most : -(places : Int) ≤ exponent + zeros := by omega
  have sum : (exponent + zeros + places).toNat = zeros + (exponent + places).toNat := by omega
  rw [ofDecimal_eq_ofQuotient (x := ⟨negative, digits * 10 ^ zeros, exponent⟩) least few,
    ofDecimal_eq_ofQuotient (x := ⟨negative, digits, exponent + zeros⟩) most few]
  simp only [sum, Nat.pow_add, Nat.mul_assoc]

end Binary64

namespace Decimal

open Binary64

/-- A decimal with either sign is rounded to a double. Its exponent is not less than those of
the exact decimals of doubles. -/
structure RoundsTo (x : Decimal) (rank : Fin rankLimit) : Prop where
  least : -1074 ≤ x.exponent
  rounded : ∀ negative, ofDecimal { x with negative := negative } = .finite negative rank

/-- One sign is enough. -/
theorem roundsTo_of_ofDecimal {x : Decimal} {rank : Fin rankLimit} (least : -1074 ≤ x.exponent)
    (rounded : ofDecimal x = .finite x.negative rank) : x.RoundsTo rank := by
  refine ⟨least, fun negative => ?_⟩
  obtain ⟨places, below, few⟩ : ∃ places : Nat, -(places : Int) ≤ x.exponent ∧ places ≤ 2000 :=
    ⟨1074, least, by decide⟩
  rw [ofDecimal_eq_ofQuotient below few, ofQuotient, ofRank_eq_finite_iff] at rounded
  rw [ofDecimal_eq_ofQuotient (x := { x with negative := negative }) below few, ofQuotient,
    ofRank_eq_finite_iff]
  exact rounded

theorem RoundsTo.withoutTrailingZeros {x : Decimal} {rank : Fin rankLimit}
    (h : x.RoundsTo rank) : x.withoutTrailingZeros.RoundsTo rank := by
  induction x using Decimal.withoutTrailingZeros.induct with
  | case1 x zero ih =>
      rw [Decimal.withoutTrailingZeros, if_pos zero]
      have least := h.least
      refine ih ⟨by simp only; omega, fun negative => ?_⟩
      have whole : x.digits / 10 * 10 ^ 1 = x.digits := by omega
      have moved := ofDecimal_mul_ten_pow negative (x.digits / 10) 1
        (show -2000 ≤ x.exponent by omega)
      rw [whole] at moved
      exact moved.symm.trans (h.rounded negative)
  | case2 x other =>
      rw [Decimal.withoutTrailingZeros, if_neg other]
      exact h

end Decimal

namespace Binary64

theorem ten_pow_eq_unitsPerOne_mul : 10 ^ 1074 = unitsPerOne * Nat.pow 5 1074 := by
  unfold unitsPerOne
  generalize 1074 = unit
  exact Nat.mul_pow 2 5 unit

/-- The exact decimal of a double is rounded to it. -/
theorem roundsTo_exact (rank : Fin rankLimit) :
    Decimal.RoundsTo ⟨false, tenUnits rank, -1074⟩ rank := by
  apply Decimal.roundsTo_of_ofDecimal (Int.le_refl _)
  have pos : 0 < Nat.pow 5 1074 := by
    generalize 1074 = unit
    exact Nat.pow_pos (by decide)
  have scaled := nearestRank_mul_mul (units rank) unitsPerOne pos
  have least : -((1074 : Nat) : Int) ≤ Decimal.exponent ⟨false, tenUnits rank, -1074⟩ :=
    Int.le_refl _
  have quotient := ofDecimal_eq_ofQuotient least (by decide)
  have power : ((-1074 : Int) + (1074 : Nat)).toNat = 0 := rfl
  simp only [power, Nat.pow_zero, Nat.mul_one] at quotient
  rw [quotient, ofQuotient, ofRank_eq_finite_iff, ten_pow_eq_unitsPerOne_mul, tenUnits]
  exact scaled.trans (nearestRank_units rank)

theorem of_mem_decimalsNear {rank : Nat} {x : Decimal} (mem : x ∈ decimalsNear rank) :
    x.negative = false ∧ -1074 ≤ x.exponent := by
  unfold decimalsNear at mem
  rcases List.mem_append.mp mem with mem | mem
  case inl =>
      obtain ⟨kept, _, mem⟩ := List.mem_flatMap.mp mem
      obtain ⟨n, _, rfl⟩ := List.mem_map.mp mem
      exact ⟨rfl, by simp only; omega⟩
  case inr =>
      obtain rfl := List.mem_singleton.mp mem
      exact ⟨rfl, Int.le_refl _⟩

/-- The shortest decimal of a double is rounded to the double. -/
theorem roundsTo_shortest (rank : Fin rankLimit) : (shortest rank).RoundsTo rank := by
  rw [shortest]
  cases found : (decimalsNear rank).find? (readsBack rank) with
  | none => exact roundsTo_exact rank
  | some x =>
      -- The search asks for a positive sign; the candidate reads back with the other one as well.
      have reads : readsBack rank x = true := List.find?_some found
      have same : ofDecimal x = ofRank false rank := of_decide_eq_true reads
      obtain ⟨sign, least⟩ := of_mem_decimalsNear (List.mem_of_find?_eq_some found)
      apply Decimal.RoundsTo.withoutTrailingZeros
      apply Decimal.roundsTo_of_ofDecimal least
      rw [same, sign]
      exact ofRank_eq_finite_iff.mpr rfl

end Binary64

end DesignTokens.Number
