import DesignTokens.Proofs.Number.DistinctTexts
import DesignTokens.Proofs.Number.Order

/-!
# Texts that end in a point and a zero

A text that ends in a point and a zero is read as a whole double, since a whole number is rounded
to a whole double. So no number in lowest form has such a text: it is an integer, it is not
finite, or it lies between two integers.
-/

namespace DesignTokens.Number

namespace Binary64

/-- A rank that is made of a scale and a significand of this scale has the units of both. -/
theorem units_of_significand {shift quotient : Nat} (least : significands ≤ quotient)
    (most : quotient ≤ 2 * significands) :
    units (shift * significands + quotient) = quotient * 2 ^ shift := by
  have large : significands ≤ shift * significands + quotient := Nat.le_add_left_of_le least
  have pos := significands_pos
  rcases Nat.lt_or_eq_of_le most with below | full
  case inl =>
      have cut : (shift * significands + quotient) / significands = shift + 1 := by
        apply Nat.div_eq_of_lt_le
        · rw [Nat.add_mul]
          omega
        · rw [Nat.add_mul, Nat.add_mul]
          omega
      have rest : (shift * significands + quotient) % significands = quotient - significands := by
        have parts := Nat.div_add_mod (shift * significands + quotient) significands
        rw [cut, Nat.mul_comm, Nat.add_mul] at parts
        omega
      rw [units, significand, if_neg (Nat.not_lt.mpr large), scale, cut, rest, Nat.pow_eq,
        Nat.add_sub_cancel, Nat.add_sub_cancel' least]
  case inr =>
      -- A quotient that is rounded up to the next power of two opens the next scale.
      have next : shift * significands + quotient = (shift + 2) * significands := by
        rw [full, Nat.add_mul]
      have whole : (shift + 2) * significands / significands = shift + 2 :=
        Nat.mul_div_cancel _ pos
      rw [next] at large ⊢
      rw [units, significand, if_neg (Nat.not_lt.mpr large), scale, whole, Nat.mul_mod_left,
        Nat.pow_eq, Nat.add_zero, full, Nat.mul_comm 2, Nat.mul_assoc]
      have doubled : 2 ^ (shift + 2 - 1) = 2 * 2 ^ shift := Nat.pow_succ'
      rw [doubled]

/-- The significand to which a magnitude is rounded keeps its scale or opens the next one. -/
theorem nearestQuotient_mem {magnitude shift : Nat} (log : magnitude.log2 = shift + 52)
    (nonzero : magnitude ≠ 0) :
    significands ≤ nearestQuotient magnitude (2 ^ shift) ∧
      nearestQuotient magnitude (2 ^ shift) ≤ 2 * significands := by
  have bounds := (Nat.log2_eq_iff nonzero).mp log
  have least : significands ≤ magnitude / 2 ^ shift := by
    rw [Nat.le_div_iff_mul_le (Nat.two_pow_pos shift), significands_eq, ← Nat.pow_add, Nat.add_comm]
    exact bounds.1
  have most : magnitude / 2 ^ shift < 2 * significands := by
    rw [Nat.div_lt_iff_lt_mul (Nat.two_pow_pos shift), significands_eq, ← Nat.pow_succ',
      ← Nat.pow_add]
    calc magnitude
        < 2 ^ (shift + 52 + 1) := bounds.2
      _ = 2 ^ (52 + 1 + shift) := congrArg (2 ^ ·) (by omega)
  have up := nearestQuotient_le magnitude (2 ^ shift)
  exact ⟨Nat.le_trans least (nearestQuotient_ge _ _), by omega⟩

theorem exists_unitsPerOne_eq : ∃ unit, 52 ≤ unit ∧ unitsPerOne = 2 ^ unit := by
  have room : 52 ≤ 1074 := by decide
  unfold unitsPerOne
  generalize 1074 = unit at room
  exact ⟨unit, room, rfl⟩

/-- A whole number is rounded to a whole number. -/
theorem unitsPerOne_dvd_units_nearestRank (n : Nat) : unitsPerOne ∣ units (nearestRank n 1) := by
  rcases Nat.eq_zero_or_pos n with rfl | pos
  case inl =>
      rw [nearestRank_zero, units_zero]
      exact Nat.dvd_zero _
  case inr =>
      obtain ⟨unit, room, power⟩ := exists_unitsPerOne_eq
      have inUnits : unitsPerOne ≤ n * unitsPerOne := Nat.le_mul_of_pos_left _ pos
      have nonzero : n * unitsPerOne ≠ 0 := Nat.ne_of_gt (Nat.mul_pos pos unitsPerOne_pos)
      have high : unit ≤ (n * unitsPerOne).log2 := (Nat.le_log2 nonzero).mpr (power ▸ inUnits)
      obtain ⟨shift, log⟩ : ∃ shift, (n * unitsPerOne).log2 = shift + 52 :=
        Nat.exists_eq_add_of_le' (Nat.le_trans room high)
      obtain ⟨least, most⟩ := nearestQuotient_mem log nonzero
      rw [nearestRank, Nat.div_one, log, Nat.add_sub_cancel, Nat.one_mul, Nat.pow_eq,
        units_of_significand least most]
      rcases Nat.le_total unit shift with above | below
      case inl =>
          rw [power]
          exact Nat.dvd_mul_left_of_dvd (Nat.pow_dvd_pow 2 above) _
      case inr =>
          -- The number is a multiple of the unit of its scale, so nothing is rounded.
          have exact : n * unitsPerOne = n * 2 ^ (unit - shift) * 2 ^ shift := by
            rw [Nat.mul_assoc, ← Nat.pow_add, Nat.sub_add_cancel below, power]
          rw [exact, nearestQuotient_mul _ (Nat.two_pow_pos shift), ← exact]
          exact Nat.dvd_mul_left _ _

/-- A decimal without a fraction is rounded to a whole double, unless it is out of range. -/
theorem isWhole_ofDecimal {negative : Bool} {digits : Nat} {sign : Bool} {rank : Fin rankLimit}
    (rounded : ofDecimal ⟨negative, digits, 0⟩ = .finite sign rank) :
    (finite sign rank).isWhole = true := by
  have least : -((0 : Nat) : Int) ≤ Decimal.exponent ⟨negative, digits, 0⟩ := Int.le_refl 0
  have quotient := ofDecimal_eq_ofQuotient least (by decide)
  rw [quotient, ofQuotient, ofRank] at rounded
  split at rounded
  case isTrue within =>
      obtain ⟨rfl, rfl⟩ := finite.inj rounded
      have multiple := unitsPerOne_dvd_units_nearestRank digits
      simpa [isWhole] using Nat.mod_eq_zero_of_dvd multiple
  case isFalse => cases rounded

end Binary64

section Scanning

variable {s text rest whole digits : List Char} {x : Number}

/-- A text ends as its last part does if the ending starts with what is not in front of it. -/
theorem suffix_of_suffix_append {c : Char} {ending front back : List Char} (absent : c ∉ front)
    (h : c :: ending <:+ front ++ back) : c :: ending <:+ back := by
  obtain ⟨before, same⟩ := h
  rcases List.append_eq_append_iff.mp same with ⟨between, rfl, split⟩ | ⟨between, rfl, split⟩
  case inl =>
      cases between with
      | nil => exact ⟨[], split⟩
      | cons d more =>
          obtain ⟨rfl, _⟩ := List.cons.inj split
          exact absurd (List.mem_append_right _ List.mem_cons_self) absent
  case inr => exact ⟨between, split.symm⟩

theorem AllDigits.not_mem_point (all : AllDigits digits) : '.' ∉ digits := fun mem =>
  absurd (all '.' mem) (by decide)

theorem of_spanDigits {before after : List Char} (h : spanDigits s = (before, after)) :
    AllDigits before ∧ before ++ after = s := by
  obtain ⟨rfl, rfl⟩ := Prod.mk.inj h
  exact ⟨fun c mem => List.all_eq_true.mp List.all_takeWhile c mem, List.takeWhile_append_dropWhile⟩

theorem of_scanFraction (h : scanFraction s = some (digits, rest)) :
    AllDigits digits ∧ digits ≠ [] ∧ '.' :: digits ++ rest = s := by
  unfold scanFraction at h
  split at h
  case h_1 more =>
      split at h
      case h_1 => cases h
      case h_2 found nonempty =>
          have span : spanDigits more = (digits, rest) := Option.some.inj h
          obtain ⟨all, same⟩ := of_spanDigits span
          refine ⟨all, ?_, congrArg ('.' :: ·) same⟩
          rintro rfl
          exact nonempty rest span
  case h_2 => cases h

/-- No decimal mark stands in an exponent that ends a text. -/
theorem not_mem_point_of_scanExponent {power : Int} (h : scanExponent s = some (power, [])) :
    '.' ∉ s := by
  cases s with
  | nil => cases h
  | cons c more =>
      rw [scanExponent] at h
      split at h
      case isTrue letter =>
          have sign : ∃ signs : List Char, '.' ∉ signs ∧ signs ++ (spanSign more).2 = more := by
            unfold spanSign
            split
            · exact ⟨['-'], by decide, rfl⟩
            · exact ⟨['+'], by decide, rfl⟩
            · exact ⟨[], List.not_mem_nil, rfl⟩
          obtain ⟨signs, absent, same⟩ := sign
          simp only at h
          split at h
          case h_1 => cases h
          case h_2 found after _ span =>
              obtain ⟨-, rfl⟩ := Prod.mk.inj (Option.some.inj h)
              obtain ⟨all, own⟩ := of_spanDigits span
              rw [List.append_nil] at own
              rw [← same, ← own, List.mem_cons, List.mem_append, not_or, not_or]
              refine ⟨?_, absent, all.not_mem_point⟩
              rintro rfl
              simp at letter
      case isFalse => cases h

theorem of_spanMinus (s : List Char) :
    ∃ sign : List Char, '.' ∉ sign ∧ sign ++ (spanMinus s).2 = s := by
  unfold spanMinus
  split
  · exact ⟨['-'], by decide, rfl⟩
  · exact ⟨[], List.not_mem_nil, rfl⟩

/-- What is read from a text that ends in a point and a zero has these as its whole fraction. -/
theorem exists_composed_of_scan (h : scan text = some (x, []))
    (ends : ['.', '0'] <:+ text) :
    ∃ negative whole, x = .real (composed negative whole ['0'] 0) := by
  obtain ⟨sign, plain, signed⟩ := of_spanMinus text
  rw [← signed] at ends
  have ends := suffix_of_suffix_append plain ends
  unfold scan at h
  simp only at h
  split at h
  case h_1 => cases h
  case h_2 whole afterWhole front =>
      obtain ⟨all, _, parts⟩ := of_scanWhole front
      rw [← parts] at ends
      have ends := suffix_of_suffix_append all.not_mem_point ends
      cases mark : scanFraction afterWhole with
      | none =>
          -- Without a fraction the text would end in an exponent or in the whole part.
          simp only [mark] at h
          split at h
          case h_1 power after back =>
              obtain ⟨-, rfl⟩ := Prod.mk.inj (Option.some.inj h)
              exact absurd (ends.mem List.mem_cons_self) (not_mem_point_of_scanExponent back)
          case h_2 =>
              obtain ⟨-, rfl⟩ := Prod.mk.inj (Option.some.inj h)
              exact absurd (ends.mem List.mem_cons_self) List.not_mem_nil
      | some found =>
          obtain ⟨fraction, after⟩ := found
          obtain ⟨digits, nonempty, split⟩ := of_scanFraction mark
          simp only [mark] at h
          -- The mark stands once, so what follows it is a zero.
          have zero : '.' ∉ fraction ++ after → fraction ++ after = ['0'] := by
            intro absent
            rw [← split, List.cons_append, List.suffix_cons_iff] at ends
            rcases ends with same | below
            · exact (List.cons.inj same).2.symm
            · exact absurd (below.mem List.mem_cons_self) absent
          cases back : scanExponent after with
          | some exponent =>
              obtain ⟨power, remaining⟩ := exponent
              simp only [back] at h
              obtain ⟨-, rfl⟩ := Prod.mk.inj (Option.some.inj h)
              have absent := not_mem_point_of_scanExponent back
              have all := zero (by simp [digits.not_mem_point, absent])
              cases fraction with
              | nil => exact absurd rfl nonempty
              | cons c more =>
                  obtain ⟨-, nothing⟩ := List.cons.inj all
                  obtain ⟨-, rfl⟩ := List.append_eq_nil_iff.mp nothing
                  cases back
          | none =>
              have some_digit : fraction.isEmpty = false := by simpa using nonempty
              simp only [back, some_digit, Bool.false_eq_true, if_false] at h
              obtain ⟨rfl, rfl⟩ := Prod.mk.inj (Option.some.inj h)
              have own := zero (by simpa using digits.not_mem_point)
              rw [List.append_nil] at own
              exact ⟨_, whole, congrArg (fun digits => real (composed _ whole digits 0)) own⟩

/-- A finite double whose text ends in a point and a zero is whole. -/
theorem isWhole_of_text_ends {negative : Bool} {rank : Fin rankLimit}
    (ends : ['.', '0'] <:+ (real (.finite negative rank)).text.toList) :
    (Binary64.finite negative rank).isWhole = true := by
  have scanned := scan_text_of_isFinite (x := .real (.finite negative rank)) rfl
  obtain ⟨sign, whole, same⟩ := exists_composed_of_scan scanned ends
  have value : digitsValue (whole ++ ['0']) = digitsValue whole * 10 ^ 1 := digitsValue_append _ _
  have moved := Binary64.ofDecimal_mul_ten_pow sign (digitsValue whole) 1
    (show -2000 ≤ (-1 : Int) by decide)
  rw [composed, value] at same
  exact Binary64.isWhole_ofDecimal (moved.symm.trans (real.inj same).symm)

end Scanning

/-- An integer, or a double that is not a whole number. -/
inductive Lowest : Number → Prop where
  | integer (n : Int) : Lowest (.integer n)
  | fraction {negative : Bool} {rank : Fin rankLimit}
      (between : ∀ n : Int, n * unitsPerOne ≠ Binary64.signedUnits negative rank) :
      Lowest (.real (.finite negative rank))
  | infinite (negative : Bool) : Lowest (.real (.infinite negative))
  | nan : Lowest (.real .nan)

variable {x : Number}

/-- The stored form is the lowest one. -/
theorem lowest_iff_normalize_eq : x.Lowest ↔ x.normalize = x := by
  constructor
  · intro lowest
    cases lowest with
    | integer n => rfl
    | @fraction negative rank between =>
        have proper : (Binary64.finite negative rank).isWhole = false := by
          rw [Bool.eq_false_iff]
          intro whole
          obtain ⟨n, same⟩ := Nat.dvd_of_mod_eq_zero (by simpa [Binary64.isWhole] using whole)
          have magnitude : (Binary64.units rank : Int) = n * unitsPerOne := by
            rw [same, Nat.cast_mul, Int.mul_comm]
          cases negative with
          | false => exact between n magnitude.symm
          | true =>
              apply between (-n)
              rw [Int.neg_mul, ← magnitude]
              rfl
        rw [normalize, Binary64.toInt?, proper]
        rfl
    | infinite negative => rfl
    | nan => rfl
  · intro stored
    cases x with
    | integer n => exact .integer n
    | real double =>
        cases double with
        | finite negative rank => exact .fraction (Proper.place_integer_ne · ⟨stored, by simp⟩)
        | infinite negative => exact .infinite negative
        | nan => exact .nan

theorem integerText_not_mem_point (n : Int) : '.' ∉ integerText n := by
  rw [integerText_eq, withSign]
  have absent := (allDigits_digitsOf n.natAbs).not_mem_point
  split
  · simpa using absent
  · exact absent

/-- The text of a finite number in lowest form does not end in a point and a zero. -/
theorem Lowest.not_text_ends (lowest : x.Lowest) (finite : x.isFinite = true) :
    ¬ ['.', '0'] <:+ x.text.toList := by
  intro ends
  cases lowest with
  | integer n =>
      have point : '.' ∈ integerText n := by simpa [text] using ends.mem List.mem_cons_self
      exact integerText_not_mem_point n point
  | @fraction negative rank between =>
      have stored := lowest_iff_normalize_eq.mp (.fraction between)
      have whole := isWhole_of_text_ends ends
      rw [Proper.isWhole_eq_false ⟨stored, by simp⟩] at whole
      cases whole
  | infinite negative => cases finite
  | nan => cases finite

end DesignTokens.Number
