import DesignTokens.Proofs.Number.Digits
import DesignTokens.Proofs.Text.UnifiedLines

/-!
# What a number leaves

The scanner of numbers leaves an end of its text. It stops in front of a line end, so unifying
the line ends of a text changes what is left behind the number, and nothing else.
-/

namespace DesignTokens.Number

open Text (unifyNewlines unifyNewlines_cases IsLineEnd)

section Suffix

variable {s rest : List Char}

theorem suffix_spanMinus (s : List Char) : (spanMinus s).2 <:+ s := by
  unfold spanMinus
  split
  · exact List.suffix_cons _ _
  · exact List.suffix_rfl

theorem suffix_spanSign (s : List Char) : (spanSign s).2 <:+ s := by
  unfold spanSign
  split
  · exact List.suffix_cons _ _
  · exact List.suffix_cons _ _
  · exact List.suffix_rfl

theorem suffix_scanWhole {digits : List Char} (h : scanWhole s = some (digits, rest)) :
    rest <:+ s :=
  (of_scanWhole h).2.2 ▸ List.suffix_append digits rest

theorem suffix_scanFraction {digits : List Char} (h : scanFraction s = some (digits, rest)) :
    rest <:+ s := by
  unfold scanFraction at h
  split at h
  case h_1 tail =>
      split at h
      case h_1 => cases h
      case h_2 =>
          cases h
          exact (List.dropWhile_suffix _).trans (List.suffix_cons _ tail)
  case h_2 => cases h

theorem suffix_scanExponent {power : Int} (h : scanExponent s = some (power, rest)) :
    rest <:+ s := by
  unfold scanExponent at h
  split at h
  case h_1 mark tail =>
      split at h
      case isTrue =>
          simp only at h
          split at h
          case h_1 => cases h
          case h_2 found =>
              cases h
              have after : rest = ((spanSign tail).2).dropWhile Char.isDigit :=
                (congrArg Prod.snd found).symm
              rw [after]
              exact (List.dropWhile_suffix _).trans
                ((suffix_spanSign tail).trans (List.suffix_cons mark tail))
      case isFalse => cases h
  case h_2 => cases h

/-- What is left behind a number is an end of the text. -/
theorem suffix_scan {x : Number} (h : scan s = some (x, rest)) : rest <:+ s := by
  rw [scan] at h
  cases front : scanWhole (spanMinus s).2 with
  | none => simp [front] at h
  | some found =>
      obtain ⟨whole, afterWhole⟩ := found
      have first : afterWhole <:+ s := (suffix_scanWhole front).trans (suffix_spanMinus s)
      simp only [front] at h
      cases fraction : scanFraction afterWhole with
      | none =>
          simp only [fraction] at h
          cases exponent : scanExponent afterWhole with
          | none =>
              simp only [exponent, List.isEmpty_nil, if_true] at h
              cases h
              exact first
          | some found =>
              simp only [exponent] at h
              cases h
              exact (suffix_scanExponent exponent).trans first
      | some found =>
          obtain ⟨digits, afterFraction⟩ := found
          have second := (suffix_scanFraction fraction).trans first
          simp only [fraction] at h
          cases exponent : scanExponent afterFraction with
          | none =>
              simp only [exponent] at h
              split at h
              · cases h
                exact first
              · cases h
                exact second
          | some found =>
              simp only [exponent] at h
              cases h
              exact (suffix_scanExponent exponent).trans second

end Suffix

theorem spanDigits_unifyNewlines (s : List Char) :
    spanDigits (unifyNewlines s) = (spanDigits s).map id unifyNewlines := by
  rw [spanDigits, spanDigits, Text.takeWhile_unifyNewlines rfl rfl,
    Text.dropWhile_unifyNewlines rfl]
  rfl

theorem spanMinus_unifyNewlines (s : List Char) :
    spanMinus (unifyNewlines s) = (spanMinus s).map id unifyNewlines := by
  obtain rfl | ⟨c, rest, rfl, plain, unified⟩ | ⟨c, rest, tail, rfl, ends, unified⟩ :=
    unifyNewlines_cases s
  · rfl
  · by_cases minus : c = '-'
    · rw [unified, minus]
      rfl
    · simp [spanMinus, minus, unified]
  · have same : spanMinus (c :: rest) = (false, c :: rest) := by
      rcases ends with rfl | rfl <;> rfl
    rw [same, unified, Prod.map_apply, unified]
    rfl

theorem spanSign_unifyNewlines (s : List Char) :
    spanSign (unifyNewlines s) = (spanSign s).map id unifyNewlines := by
  obtain rfl | ⟨c, rest, rfl, plain, unified⟩ | ⟨c, rest, tail, rfl, ends, unified⟩ :=
    unifyNewlines_cases s
  · rfl
  · by_cases minus : c = '-'
    · rw [unified, minus]
      rfl
    · by_cases plus : c = '+'
      · rw [unified, plus]
        rfl
      · simp [spanSign, minus, plus, unified]
  · have same : spanSign (c :: rest) = (false, c :: rest) := by
      rcases ends with rfl | rfl <;> rfl
    rw [same, unified, Prod.map_apply, unified]
    rfl

theorem scanWhole_unifyNewlines (s : List Char) :
    scanWhole (unifyNewlines s) = (scanWhole s).map (Prod.map id unifyNewlines) := by
  obtain rfl | ⟨c, rest, rfl, plain, unified⟩ | ⟨c, rest, tail, rfl, ends, unified⟩ :=
    unifyNewlines_cases s
  · rfl
  · rw [unified, scanWhole, scanWhole, Text.takeWhile_unifyNewlines rfl rfl,
      Text.dropWhile_unifyNewlines rfl]
    split
    · rfl
    · split <;> rfl
  · rw [unified]
    rcases ends with rfl | rfl <;> rfl

theorem scanFraction_unifyNewlines (s : List Char) :
    scanFraction (unifyNewlines s) = (scanFraction s).map (Prod.map id unifyNewlines) := by
  obtain rfl | ⟨c, rest, rfl, plain, unified⟩ | ⟨c, rest, tail, rfl, ends, unified⟩ :=
    unifyNewlines_cases s
  · rfl
  · by_cases mark : c = '.'
    · subst mark
      rw [unified]
      simp only [scanFraction, spanDigits_unifyNewlines]
      cases spanDigits rest with
      | mk digits after => cases digits <;> rfl
    · simp [scanFraction, mark, unified]
  · rw [unified]
    rcases ends with rfl | rfl <;> rfl

theorem scanExponent_unifyNewlines (s : List Char) :
    scanExponent (unifyNewlines s) = (scanExponent s).map (Prod.map id unifyNewlines) := by
  obtain rfl | ⟨c, rest, rfl, plain, unified⟩ | ⟨c, rest, tail, rfl, ends, unified⟩ :=
    unifyNewlines_cases s
  · rfl
  · rw [unified, scanExponent, scanExponent]
    split
    case isTrue =>
      rw [spanSign_unifyNewlines]
      simp only [Prod.map_snd, Prod.map_fst, spanDigits_unifyNewlines, id]
      cases spanDigits (spanSign rest).2 with
      | mk digits after => cases digits <;> rfl
    case isFalse => rfl
  · rw [unified]
    rcases ends with rfl | rfl <;> rfl

theorem wholeDigits_unifyNewlines (s : List Char) :
    wholeDigits (unifyNewlines s) = wholeDigits s := by
  rw [wholeDigits, wholeDigits, spanMinus_unifyNewlines, Prod.map_snd, scanWhole_unifyNewlines]
  cases scanWhole (spanMinus s).2 <;> rfl

/-- A number is scanned alike whatever line ends follow it. -/
theorem scan_unifyNewlines (s : List Char) :
    scan (unifyNewlines s) = (scan s).map (Prod.map id unifyNewlines) := by
  rw [scan, scan, spanMinus_unifyNewlines]
  obtain ⟨negative, unsigned⟩ := spanMinus s
  simp only [Prod.map_apply, scanWhole_unifyNewlines]
  cases scanWhole unsigned with
  | none => rfl
  | some found =>
      obtain ⟨whole, afterWhole⟩ := found
      simp only [Option.map_some, Prod.map_apply, scanFraction_unifyNewlines]
      cases scanFraction afterWhole with
      | none =>
          simp only [Option.map_none, scanExponent_unifyNewlines]
          cases scanExponent afterWhole <;> rfl
      | some found =>
          obtain ⟨fraction, afterFraction⟩ := found
          simp only [Option.map_some, Prod.map_apply, scanExponent_unifyNewlines]
          cases scanExponent afterFraction with
          | none =>
              simp only [Option.map_none, id]
              split <;> rfl
          | some => rfl

end DesignTokens.Number
