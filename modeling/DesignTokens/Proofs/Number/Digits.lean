import DesignTokens.Number.Scan
import Mathlib.Tactic.Ring

/-!
# Digits and the numbers they write

The digits of a number are read back as the number. They start with a zero only for the number
zero, and their count tells between which powers of ten the number lies.
-/

namespace DesignTokens.Number

/-- Only digits. -/
def AllDigits (digits : List Char) : Prop :=
  ∀ c ∈ digits, c.isDigit = true

/-- A text that no digit continues. -/
def NoDigitNext (rest : List Char) : Prop :=
  ∀ c, rest.head? = some c → c.isDigit = false

theorem digitsValueFrom_eq (total : Nat) (digits : List Char) :
    digitsValueFrom total digits = 10 ^ digits.length * total + digitsValue digits :=
  Nat.ofDigitChars_eq_ofDigitChars_zero

theorem digitsValue_append (first second : List Char) :
    digitsValue (first ++ second) =
      digitsValue first * 10 ^ second.length + digitsValue second := by
  rw [digitsValue, digitsValueFrom_append, digitsValueFrom_eq, Nat.mul_comm]
  rfl

theorem digitsValue_replicate_zero (count : Nat) :
    digitsValue (List.replicate count '0') = 0 :=
  Nat.ofDigitChars_replicate_zero

@[simp] theorem digitsValue_digitsOf (n : Nat) : digitsValue (digitsOf n) = n :=
  Nat.ofDigitChars_ten_toDigits

theorem allDigits_digitsOf (n : Nat) : AllDigits (digitsOf n) := fun _ mem =>
  Nat.isDigit_of_mem_toDigits (by decide) (by decide) mem

theorem allDigits_replicate_zero (count : Nat) : AllDigits (List.replicate count '0') := by
  intro c mem
  rw [List.eq_of_mem_replicate mem]
  decide

theorem AllDigits.append {first second : List Char} (hf : AllDigits first)
    (hs : AllDigits second) : AllDigits (first ++ second) := by
  intro c mem
  rcases List.mem_append.mp mem with mem | mem
  · exact hf c mem
  · exact hs c mem

theorem digitsOf_ne_nil (n : Nat) : digitsOf n ≠ [] := Nat.toDigits_ne_nil

/-- The first digit of a number other than zero is not a zero. -/
theorem head?_digitsOf_ne {n : Nat} (pos : n ≠ 0) : (digitsOf n).head? ≠ some '0' := by
  induction n using Nat.strongRecOn with
  | _ n ih =>
      rw [digitsOf, Nat.toDigits_eq_if (by decide)]
      split
      case isTrue small =>
          have other : ∀ d < 10, d ≠ 0 → [Nat.digitChar d].head? ≠ some '0' := by decide
          exact other n small pos
      case isFalse large =>
          have shorter := ih (n / 10) (by omega) (by omega)
          cases front : digitsOf (n / 10) with
          | nil => exact absurd front (digitsOf_ne_nil _)
          | cons d rest =>
              rw [front] at shorter
              rw [digitsOf] at front
              simpa [front] using shorter

theorem length_digitsOf_le_iff {n count : Nat} (pos : 0 < count) :
    (digitsOf n).length ≤ count ↔ n < 10 ^ count :=
  Nat.length_toDigits_le_iff (by decide) pos

theorem digitsValue_lt {digits : List Char} (all : AllDigits digits) :
    digitsValue digits < 10 ^ digits.length := by
  induction digits with
  | nil => simp
  | cons c rest ih =>
      have own : c.toNat - '0'.toNat < 10 := by
        have bounds := Char.isDigit_iff_toNat.mp (all c List.mem_cons_self)
        simp at bounds ⊢
        omega
      have others := ih fun d mem => all d (List.mem_cons_of_mem _ mem)
      have whole : digitsValue (c :: rest) =
          10 ^ rest.length * (c.toNat - '0'.toNat) + digitsValue rest := by
        rw [← digitsValueFrom_eq]
        simp [digitsValue, digitsValueFrom]
      rw [whole, List.length_cons, Nat.pow_succ]
      have room : 10 ^ rest.length * (c.toNat - '0'.toNat) ≤ 10 ^ rest.length * 9 :=
        Nat.mul_le_mul_left _ (by omega)
      omega

/-- As many digits as a number is read from are enough to write it. -/
theorem length_digitsOf_digitsValue_le {digits : List Char} (all : AllDigits digits)
    (nonempty : digits ≠ []) : (digitsOf (digitsValue digits)).length ≤ digits.length :=
  (length_digitsOf_le_iff (List.length_pos_iff.mpr nonempty)).mpr (digitsValue_lt all)

theorem natAbs_signed (negative : Bool) (digits : List Char) :
    (signed negative digits).natAbs = digitsValue digits := by
  rw [signed]
  split <;> simp

/-- A run of digits ends where no digit goes on. -/
theorem spanDigits_append {digits rest : List Char} (all : AllDigits digits)
    (ends : NoDigitNext rest) : spanDigits (digits ++ rest) = (digits, rest) := by
  have stop : rest.takeWhile Char.isDigit = [] ∧ rest.dropWhile Char.isDigit = rest := by
    cases rest with
    | nil => exact ⟨rfl, rfl⟩
    | cons c tail =>
        have other := ends c rfl
        simp [other]
  rw [spanDigits, List.takeWhile_append_of_pos all, List.dropWhile_append_of_pos all, stop.1,
    stop.2, List.append_nil]

/-- The whole part of a number is made of digits, which the text starts with. -/
theorem of_scanWhole {s digits rest : List Char} (h : scanWhole s = some (digits, rest)) :
    AllDigits digits ∧ digits ≠ [] ∧ digits ++ rest = s := by
  cases s with
  | nil => cases h
  | cons c more =>
      rw [scanWhole] at h
      split at h
      case isTrue zero =>
          cases h
          exact ⟨allDigits_replicate_zero 1, by simp, by rw [zero]; rfl⟩
      case isFalse =>
          split at h
          case isTrue digit =>
              cases h
              refine ⟨?_, by simp, by simp⟩
              intro d mem
              rcases List.mem_cons.mp mem with rfl | mem
              · exact digit
              · exact List.all_eq_true.mp List.all_takeWhile d mem
          case isFalse => cases h

end DesignTokens.Number
