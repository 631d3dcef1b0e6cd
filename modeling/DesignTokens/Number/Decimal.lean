import DesignTokens.Number.Digits

/-!
# Decimal fractions

A decimal fraction is a signed whole number times a power of ten. The text of one
is positional in the middle of the range and has an exponent outside it.
-/

namespace DesignTokens.Number

/-- The fraction `digits * 10 ^ exponent`, negated when `negative`. -/
structure Decimal where
  negative : Bool
  digits : Nat
  exponent : Int
  deriving DecidableEq, Repr, Inhabited

namespace Decimal

/-- Move the zeros at the end of the digits into the exponent. -/
def withoutTrailingZeros (x : Decimal) : Decimal :=
  if x.digits ≠ 0 ∧ x.digits % 10 = 0 then
    withoutTrailingZeros { x with digits := x.digits / 10, exponent := x.exponent + 1 }
  else x
termination_by x.digits
decreasing_by omega

/-- The digits around the decimal mark, for the mark `point` places after the first digit. -/
def positional (digits : List Char) (point : Int) : List Char :=
  if point ≤ 0 then
    '0' :: '.' :: List.replicate (-point).toNat '0' ++ digits
  else if (digits.length : Int) ≤ point then
    digits ++ List.replicate (point.toNat - digits.length) '0' ++ ['.', '0']
  else
    digits.take point.toNat ++ '.' :: digits.drop point.toNat

/-- One digit, the others after a decimal mark, and an exponent of at least two digits. -/
def scientific (digits : List Char) (power : Int) : List Char :=
  let head := match digits with
    | [] => []
    | [d] => [d]
    | d :: rest => d :: '.' :: rest
  let magnitude := digitsOf power.natAbs
  head ++ 'e' :: (if power < 0 then '-' else '+') ::
    List.replicate (2 - magnitude.length) '0' ++ magnitude

/-- The text of a fraction whose digits are written as they stand: positional from
`0.0001` to below `10 ^ 16`, with an exponent outside, and always recognisable as a
fraction. -/
def text (x : Decimal) : List Char :=
  let digits := digitsOf x.digits
  let point := (digits.length : Int) + x.exponent
  let unsigned :=
    if x.digits = 0 then ['0', '.', '0']
    else if -4 < point ∧ point ≤ 16 then positional digits point
    else scientific digits (point - 1)
  if x.negative then '-' :: unsigned else unsigned

end Decimal

end DesignTokens.Number
