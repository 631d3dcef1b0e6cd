import DesignTokens.Number.Decimal
import DesignTokens.Number.Rounding

/-!
# Double-precision numbers

A finite double is a sign and a rank: the number of doubles between zero and its
magnitude. Every finite double is a whole number of units of `2 ^ (-1074)`, so
rounding, comparison and conversion are arithmetic on natural numbers, and ranks
order the magnitudes.
-/

namespace DesignTokens.Number

/-- The number of significands of one scale. -/
def significands : Nat := Nat.pow 2 52

/-- The number of finite magnitudes. -/
def rankLimit : Nat := 2047 * significands

/-- The number of units in one. -/
def unitsPerOne : Nat := Nat.pow 2 1074

/-- A double-precision number. There is one value that is not a number. -/
inductive Binary64 where
  | finite (negative : Bool) (rank : Fin rankLimit)
  | infinite (negative : Bool)
  | nan
  deriving DecidableEq, Repr, Inhabited

namespace Binary64

/-- The significand of a rank, as a whole number below `2 ^ 53`. -/
def significand (rank : Nat) : Nat :=
  if rank < significands then rank else significands + rank % significands

/-- The power of two by which the significand of a rank counts units. -/
def scale (rank : Nat) : Nat :=
  rank / significands - 1

/-- The magnitude of a rank in units. -/
def units (rank : Nat) : Nat :=
  significand rank * Nat.pow 2 (scale rank)

/-- The rank of the double nearest to the magnitude `num / den`, or the rank that
would follow the greatest one when that double is out of range. A tie goes to the
even significand. -/
def nearestRank (num den : Nat) : Nat :=
  let shift := Nat.log2 (num * unitsPerOne / den) - 52
  shift * significands + nearestQuotient (num * unitsPerOne) (den * Nat.pow 2 shift)

/-- The double with a sign and a rank; ranks past the greatest are infinite. -/
def ofRank (negative : Bool) (rank : Nat) : Binary64 :=
  if h : rank < rankLimit then .finite negative ⟨rank, h⟩ else .infinite negative

/-- The double nearest to a signed quotient. -/
def ofQuotient (negative : Bool) (num den : Nat) : Binary64 :=
  ofRank negative (nearestRank num den)

/-- The double nearest to a decimal fraction. Fractions far out of range are
decided by their exponent alone. -/
def ofDecimal (x : Decimal) : Binary64 :=
  if x.digits = 0 then ofRank x.negative 0
  else if 400 < x.exponent then .infinite x.negative
  else if 0 ≤ x.exponent then ofQuotient x.negative (x.digits * Nat.pow 10 x.exponent.toNat) 1
  else if x.exponent < -2000 ∧ (digitsOf x.digits).length + x.exponent < -400 then
    ofRank x.negative 0
  else ofQuotient x.negative x.digits (Nat.pow 10 (-x.exponent).toNat)

/-- Whether a double is zero, of either sign. -/
def isZero : Binary64 → Bool
  | .finite _ rank => rank.val == 0
  | _ => false

/-- Whether a double is a whole number. -/
def isWhole : Binary64 → Bool
  | .finite _ rank => units rank % unitsPerOne == 0
  | _ => false

/-- The whole number that is nearest to zero among those next to a finite double. -/
def truncate : Binary64 → Int
  | .finite negative rank =>
    let magnitude : Int := (units rank / unitsPerOne : Nat)
    if negative then -magnitude else magnitude
  | _ => 0

/-- The whole number that a double is, if it is one. -/
def toInt? (x : Binary64) : Option Int :=
  if x.isWhole then some x.truncate else none

/-- The double nearest to a hundred times a double. -/
def timesHundred : Binary64 → Binary64
  | .finite negative rank => ofQuotient negative (units rank * 100) unitsPerOne
  | x => x

/-- The double nearest to the two-place decimal nearest to a double; a tie between
decimals goes to the even one. -/
def toHundredths : Binary64 → Binary64
  | .finite negative rank =>
    ofQuotient negative (nearestQuotient (units rank * 100) unitsPerOne) 100
  | x => x

/-- A finite double in units, with its sign. -/
def signedUnits (negative : Bool) (rank : Nat) : Int :=
  if negative then -(units rank : Int) else (units rank : Int)

/-- The order of doubles. Nothing is less or greater than what is not a number. -/
def lt : Binary64 → Binary64 → Bool
  | .finite m r, .finite n s => signedUnits m r < signedUnits n s
  | .finite _ _, .infinite n => !n
  | .infinite m, .finite _ _ => m
  | .infinite m, .infinite n => m && !n
  | _, _ => false

@[simp] theorem toInt?_infinite (negative : Bool) : (infinite negative).toInt? = none := rfl

@[simp] theorem toInt?_nan : nan.toInt? = none := rfl

theorem units_eq_of_lt {rank : Nat} (h : rank < significands) : units rank = rank := by
  have hs : rank / significands = 0 := Nat.div_eq_of_lt h
  rw [units, significand, if_pos h, scale, hs]
  exact Nat.mul_one rank

@[simp] theorem units_zero : units 0 = 0 := units_eq_of_lt (by decide)

end Binary64

end DesignTokens.Number
