import DesignTokens.Proofs.Number.Digits
import DesignTokens.Proofs.Number.Shortest

/-!
# Number texts are read back

The text of a number, with nothing behind it that would continue a number, is read as the
number. This holds of integers of any size and of every finite double.
-/

namespace DesignTokens.Number

/-- A text that continues no number. -/
def NoNumberNext (rest : List Char) : Prop :=
  ∀ c, rest.head? = some c → c.isDigit = false ∧ c ≠ '.' ∧ c ≠ 'e' ∧ c ≠ 'E'

variable {negative : Bool} {s unsigned whole afterWhole fraction after rest digits : List Char}

theorem NoNumberNext.noDigitNext (ends : NoNumberNext rest) : NoDigitNext rest :=
  fun c h => (ends c h).1

theorem noDigitNext_cons {c : Char} (other : c.isDigit = false) : NoDigitNext (c :: rest) := by
  intro d h
  obtain rfl := Option.some.inj h
  exact other

theorem noNumberNext_cons {c : Char}
    (other : c.isDigit = false ∧ c ≠ '.' ∧ c ≠ 'e' ∧ c ≠ 'E') :
    NoNumberNext (c :: rest) := by
  intro d h
  obtain rfl := Option.some.inj h
  exact other

section Parts

theorem scanWhole_append (all : AllDigits digits) (nonempty : digits ≠ [])
    (leading : digits.head? ≠ some '0') (ends : NoDigitNext rest) :
    scanWhole (digits ++ rest) = some (digits, rest) := by
  cases digits with
  | nil => exact absurd rfl nonempty
  | cons c more =>
      have other : c ≠ '0' := fun h => leading (by rw [h]; rfl)
      have span := spanDigits_append (fun d mem => all d (List.mem_cons_of_mem c mem)) ends
      obtain ⟨taken, dropped⟩ := Prod.mk.inj span
      rw [List.cons_append, scanWhole, if_neg other, if_pos (all c List.mem_cons_self), taken,
        dropped]

theorem scanWhole_digitsOf (n : Nat) (ends : NoDigitNext rest) :
    scanWhole (digitsOf n ++ rest) = some (digitsOf n, rest) := by
  rcases Nat.eq_zero_or_pos n with rfl | pos
  · rfl
  · exact scanWhole_append (allDigits_digitsOf n) (digitsOf_ne_nil n)
      (head?_digitsOf_ne (by omega)) ends

theorem signed_eq_of_natAbs {n : Int} (value : digitsValue digits = n.natAbs) :
    signed (decide (n < 0)) digits = n := by
  rw [signed, value]
  by_cases below : n < 0
  · rw [decide_eq_true below, if_pos rfl]
    omega
  · rw [decide_eq_false below, if_neg Bool.false_ne_true]
    omega

theorem scanFraction_append (all : AllDigits digits) (nonempty : digits ≠ [])
    (ends : NoDigitNext rest) :
    scanFraction ('.' :: digits ++ rest) = some (digits, rest) := by
  rw [List.cons_append, scanFraction, spanDigits_append all ends]
  cases digits with
  | nil => exact absurd rfl nonempty
  | cons c more => rfl

theorem scanFraction_of_ne (other : rest.head? ≠ some '.') : scanFraction rest = none := by
  unfold scanFraction
  split
  · exact absurd rfl other
  · rfl

theorem scanExponent_of_noNumberNext (ends : NoNumberNext rest) : scanExponent rest = none := by
  cases rest with
  | nil => rfl
  | cons c more =>
      obtain ⟨_, _, small, capital⟩ := ends c rfl
      rw [scanExponent, if_neg (by simp [small, capital])]

/-- An exponent is read with its sign. -/
theorem scanExponent_append {power : Int} (all : AllDigits digits) (nonempty : digits ≠ [])
    (value : digitsValue digits = power.natAbs) (ends : NoDigitNext rest) :
    scanExponent ('e' :: (if power < 0 then '-' else '+') :: digits ++ rest) =
      some (power, rest) := by
  have sign : spanSign ((if power < 0 then '-' else '+') :: (digits ++ rest)) =
      (decide (power < 0), digits ++ rest) := by
    split <;> simp_all [spanSign]
  have whole := signed_eq_of_natAbs value
  rw [List.cons_append, List.cons_append, scanExponent, if_pos (Or.inl rfl), sign]
  simp only [spanDigits_append all ends]
  cases digits with
  | nil => exact absurd rfl nonempty
  | cons c more => simp only [whole]

/-- A text behind its sign. -/
def withSign (negative : Bool) (unsigned : List Char) : List Char :=
  if negative then '-' :: unsigned else unsigned

theorem withSign_append (negative : Bool) (unsigned rest : List Char) :
    withSign negative unsigned ++ rest = withSign negative (unsigned ++ rest) := by
  cases negative <;> rfl

/-- What starts with the whole part of a number starts with no sign of its own. -/
theorem spanMinus_withSign (front : scanWhole unsigned = some (whole, afterWhole)) :
    spanMinus (withSign negative unsigned) = (negative, unsigned) := by
  cases negative with
  | true => rfl
  | false =>
      change spanMinus unsigned = (false, unsigned)
      unfold spanMinus
      split
      · cases front
      · rfl

end Parts

section Forms

theorem scan_of_whole (front : scanWhole unsigned = some (whole, rest))
    (ends : NoNumberNext rest) :
    scan (withSign negative unsigned) = some (.integer (signed negative whole), rest) := by
  have mark : scanFraction rest = none := scanFraction_of_ne fun h => (ends _ h).2.1 rfl
  simp [scan, spanMinus_withSign front, front, mark, scanExponent_of_noNumberNext ends]

theorem scan_of_fraction (front : scanWhole unsigned = some (whole, afterWhole))
    (mark : scanFraction afterWhole = some (fraction, rest)) (nonempty : fraction ≠ [])
    (ends : NoNumberNext rest) :
    scan (withSign negative unsigned) =
      some (.real (composed negative whole fraction 0), rest) := by
  simp [scan, spanMinus_withSign front, front, mark, scanExponent_of_noNumberNext ends, nonempty]

theorem scan_of_exponent {power : Int} (front : scanWhole unsigned = some (whole, afterWhole))
    (mark : scanFraction afterWhole = some (fraction, after) ∨
      scanFraction afterWhole = none ∧ fraction = [] ∧ after = afterWhole)
    (back : scanExponent after = some (power, rest)) :
    scan (withSign negative unsigned) =
      some (.real (composed negative whole fraction power), rest) := by
  rcases mark with mark | ⟨mark, rfl, rfl⟩ <;>
    simp [scan, spanMinus_withSign front, front, mark, back]

end Forms

theorem integerText_eq (n : Int) :
    integerText n = withSign (decide (n < 0)) (digitsOf n.natAbs) := by
  cases n with
  | ofNat m => rfl
  | negSucc m =>
      have negative : decide (Int.negSucc m < 0) = true := decide_eq_true (Int.negSucc_lt_zero m)
      rw [negative]
      rfl

/-- The text of an integer is read back. -/
theorem scan_integerText (n : Int) (ends : NoNumberNext rest) :
    scan (integerText n ++ rest) = some (.integer n, rest) := by
  rw [integerText_eq, withSign_append,
    scan_of_whole (scanWhole_digitsOf n.natAbs ends.noDigitNext) ends,
    signed_eq_of_natAbs (digitsValue_digitsOf _)]

namespace Decimal

variable {x : Decimal} {point power : Int}

theorem composed_eq_ofDecimal (value : digitsValue (whole ++ fraction) = x.digits)
    (scale : power - fraction.length = x.exponent) :
    composed x.negative whole fraction power = Binary64.ofDecimal x := by
  rw [composed, value, scale]

/-- A fraction below one: zeros stand between the mark and the digits. -/
theorem scan_below_one (place : point = (digitsOf x.digits).length + x.exponent)
    (small : point ≤ 0) (ends : NoNumberNext rest) :
    scan (withSign x.negative
      ('0' :: '.' :: List.replicate (-point).toNat '0' ++ digitsOf x.digits ++ rest)) =
        some (.real (Binary64.ofDecimal x), rest) := by
  have all := (allDigits_replicate_zero (-point).toNat).append (allDigits_digitsOf x.digits)
  have nonempty : List.replicate (-point).toNat '0' ++ digitsOf x.digits ≠ [] :=
    List.append_ne_nil_of_right_ne_nil _ (digitsOf_ne_nil x.digits)
  have front : scanWhole ('0' :: '.' :: List.replicate (-point).toNat '0' ++
      digitsOf x.digits ++ rest) =
        some (['0'], '.' :: (List.replicate (-point).toNat '0' ++ digitsOf x.digits) ++ rest) := by
    simp [scanWhole]
  rw [scan_of_fraction front (scanFraction_append all nonempty ends.noDigitNext) nonempty
    ends, composed_eq_ofDecimal]
  · have zero : digitsValue ['0'] = 0 := rfl
    rw [digitsValue_append, digitsValue_append, zero, digitsValue_replicate_zero,
      digitsValue_digitsOf, Nat.zero_mul, Nat.zero_mul, Nat.zero_add, Nat.zero_add]
  · rw [List.length_append, List.length_replicate]
    omega

/-- A whole number that is written as a fraction: zeros stand behind the digits. -/
theorem scan_full (nonzero : x.digits ≠ 0)
    (place : point = (digitsOf x.digits).length + x.exponent)
    (full : (digitsOf x.digits).length ≤ point) (ends : NoNumberNext rest) :
    scan (withSign x.negative (digitsOf x.digits ++
      List.replicate (point.toNat - (digitsOf x.digits).length) '0' ++ ['.', '0'] ++ rest)) =
        some (.real (Binary64.ofDecimal x), rest) := by
  obtain ⟨zeros, h⟩ := Int.eq_ofNat_of_zero_le (show 0 ≤ x.exponent by omega)
  have count : point.toNat - (digitsOf x.digits).length = zeros := by omega
  rw [count]
  have all := (allDigits_digitsOf x.digits).append (allDigits_replicate_zero zeros)
  have nonempty : digitsOf x.digits ++ List.replicate zeros '0' ≠ [] :=
    List.append_ne_nil_of_left_ne_nil (digitsOf_ne_nil x.digits) _
  have leading : (digitsOf x.digits ++ List.replicate zeros '0').head? ≠ some '0' := by
    obtain ⟨d, more, split⟩ := List.exists_cons_of_ne_nil (digitsOf_ne_nil x.digits)
    have own := head?_digitsOf_ne nonzero
    rw [split] at own ⊢
    exact own
  have mark : NoDigitNext (['.', '0'] ++ rest) := noDigitNext_cons (by decide)
  have front := scanWhole_append all nonempty leading mark
  rw [← List.append_assoc] at front
  have back : scanFraction (['.', '0'] ++ rest) = some (['0'], rest) :=
    scanFraction_append (allDigits_replicate_zero 1) (by decide) ends.noDigitNext
  have moved := Binary64.ofDecimal_mul_ten_pow x.negative x.digits (zeros + 1)
    (show -2000 ≤ (-1 : Int) by decide)
  have value : digitsValue (digitsOf x.digits ++ List.replicate zeros '0' ++ ['0']) =
      x.digits * 10 ^ (zeros + 1) := by
    have together : List.replicate zeros '0' ++ ['0'] = List.replicate (zeros + 1) '0' :=
      List.replicate_succ'.symm
    rw [List.append_assoc, together, digitsValue_append, digitsValue_digitsOf,
      digitsValue_replicate_zero, List.length_replicate, Nat.add_zero]
  have exponent : -1 + ((zeros + 1 : Nat) : Int) = x.exponent := by omega
  rw [exponent] at moved
  rw [scan_of_fraction front back (by decide) ends, composed, value]
  exact congrArg (fun double => some (Number.real double, rest)) moved

/-- A fraction from one on: the mark stands between the digits. -/
theorem scan_between (nonzero : x.digits ≠ 0)
    (place : point = (digitsOf x.digits).length + x.exponent) (large : 0 < point)
    (within : point < (digitsOf x.digits).length) (ends : NoNumberNext rest) :
    scan (withSign x.negative ((digitsOf x.digits).take point.toNat ++
      '.' :: (digitsOf x.digits).drop point.toNat ++ rest)) =
        some (.real (Binary64.ofDecimal x), rest) := by
  have all := allDigits_digitsOf x.digits
  have taken : AllDigits ((digitsOf x.digits).take point.toNat) := fun c mem =>
    all c (List.mem_of_mem_take mem)
  have dropped : AllDigits ((digitsOf x.digits).drop point.toNat) := fun c mem =>
    all c (List.mem_of_mem_drop mem)
  have nonempty : (digitsOf x.digits).take point.toNat ≠ [] := by
    rw [← List.length_pos_iff, List.length_take]
    omega
  have more : (digitsOf x.digits).drop point.toNat ≠ [] := by
    rw [← List.length_pos_iff, List.length_drop]
    omega
  have leading : ((digitsOf x.digits).take point.toNat).head? ≠ some '0' := by
    rw [List.head?_take, if_neg (by omega)]
    exact head?_digitsOf_ne nonzero
  have mark : NoDigitNext ('.' :: (digitsOf x.digits).drop point.toNat ++ rest) :=
    noDigitNext_cons (by decide)
  have front := scanWhole_append taken nonempty leading mark
  rw [← List.append_assoc] at front
  rw [scan_of_fraction front (scanFraction_append dropped more ends.noDigitNext) more ends,
    composed_eq_ofDecimal]
  · rw [List.take_append_drop, digitsValue_digitsOf]
  · rw [List.length_drop]
    omega

/-- The text of an exponent with its sign. -/
def exponentText (power : Int) : List Char :=
  'e' :: (if power < 0 then '-' else '+') ::
    (List.replicate (2 - (digitsOf power.natAbs).length) '0' ++ digitsOf power.natAbs)

theorem scanExponent_exponentText (power : Int) (ends : NoDigitNext rest) :
    scanExponent (exponentText power ++ rest) = some (power, rest) := by
  apply scanExponent_append
  · exact (allDigits_replicate_zero _).append (allDigits_digitsOf _)
  · exact List.append_ne_nil_of_right_ne_nil _ (digitsOf_ne_nil _)
  · rw [digitsValue_append, digitsValue_replicate_zero, digitsValue_digitsOf, Nat.zero_mul,
      Nat.zero_add]
  · exact ends

theorem scientific_singleton (d : Char) (power : Int) :
    scientific [d] power = [d] ++ exponentText power := by
  simp [scientific, exponentText]

theorem scientific_cons_cons (d e : Char) (more : List Char) (power : Int) :
    scientific (d :: e :: more) power = [d] ++ ('.' :: (e :: more) ++ exponentText power) := by
  simp [scientific, exponentText]

/-- A text with an exponent is read with one digit before the mark. -/
theorem scan_scientific (nonzero : x.digits ≠ 0)
    (place : power = (digitsOf x.digits).length + x.exponent - 1) (ends : NoNumberNext rest) :
    scan (withSign x.negative (scientific (digitsOf x.digits) power ++ rest)) =
      some (.real (Binary64.ofDecimal x), rest) := by
  have all := allDigits_digitsOf x.digits
  have leading := head?_digitsOf_ne nonzero
  have value := digitsValue_digitsOf x.digits
  have back := scanExponent_exponentText power ends.noDigitNext
  have letter : NoDigitNext (exponentText power ++ rest) := noDigitNext_cons (by decide)
  cases split : digitsOf x.digits with
  | nil => exact absurd split (digitsOf_ne_nil x.digits)
  | cons d more =>
      rw [split] at all leading value place
      have one : AllDigits [d] := fun c mem => all c (List.mem_cons.mpr (by simp_all))
      cases more with
      | nil =>
          have front := scanWhole_append one (by simp) leading letter
          rw [scientific_singleton, List.append_assoc,
            scan_of_exponent front (Or.inr ⟨rfl, rfl, rfl⟩) back, composed_eq_ofDecimal value]
          simp only [List.length_nil, List.length_singleton] at place ⊢
          omega
      | cons e others =>
          have after : AllDigits (e :: others) := fun c mem => all c (List.mem_cons_of_mem d mem)
          have mark := scanFraction_append after (by simp) letter
          have point : NoDigitNext ('.' :: (e :: others) ++ (exponentText power ++ rest)) :=
            noDigitNext_cons (by decide)
          have front := scanWhole_append one (by simp) leading point
          rw [scientific_cons_cons, List.append_assoc, List.append_assoc,
            scan_of_exponent front (Or.inl mark) back, composed_eq_ofDecimal value]
          simp only [List.length_cons] at place ⊢
          omega

end Decimal

/-- The text of a decimal fraction is read back as the double nearest to it. -/
theorem scan_text (x : Decimal) (ends : NoNumberNext rest) :
    scan (x.text ++ rest) = some (.real (Binary64.ofDecimal x), rest) := by
  have behind : ∀ unsigned : List Char, (if x.negative then '-' :: unsigned else unsigned) ++ rest =
      withSign x.negative (unsigned ++ rest) := fun unsigned =>
    withSign_append x.negative unsigned rest
  simp only [Decimal.text, behind]
  split
  case isTrue zero =>
      have front : scanWhole (['0', '.', '0'] ++ rest) = some (['0'], ['.', '0'] ++ rest) := rfl
      have mark : scanFraction (['.', '0'] ++ rest) = some (['0'], rest) :=
        scanFraction_append (allDigits_replicate_zero 1) (by decide) ends.noDigitNext
      have value : digitsValue (['0'] ++ ['0']) = 0 := rfl
      rw [scan_of_fraction front mark (by decide) ends, composed, value, Binary64.ofDecimal,
        Binary64.ofDecimal, if_pos rfl, if_pos zero]
  case isFalse nonzero =>
      split
      case isFalse => exact Decimal.scan_scientific nonzero rfl ends
      case isTrue middle =>
          unfold Decimal.positional
          split
          case isTrue small => exact Decimal.scan_below_one rfl small ends
          case isFalse large =>
              split
              case isTrue full => exact Decimal.scan_full nonzero rfl full ends
              case isFalse within =>
                  exact Decimal.scan_between nonzero rfl (by omega) (by omega) ends

/-- The text of a finite double is read back. -/
theorem scan_finite_text (negative : Bool) (rank : Fin rankLimit) (ends : NoNumberNext rest) :
    scan ((Binary64.finite negative rank).text ++ rest) =
      some (.real (.finite negative rank), rest) := by
  have scanned := scan_text { Binary64.shortest rank with negative := negative } ends
  rw [(Binary64.roundsTo_shortest rank).rounded negative] at scanned
  exact scanned

end DesignTokens.Number
