import DesignTokens.Script.Names
import Mathlib.Data.List.Basic

/-!
# Bare names

A name needs no quotes if it is an identifier of ASCII letters, digits, low lines and dollar
signs. Such a name with one line feed behind it is let through without quotes as well.
-/

namespace DesignTokens.Script

variable {c : Char} {name bare rest : List Char}

/-- A bare name, from its first character to its last. -/
structure IsBare (name : List Char) : Prop where
  front : name.head?.any startsBareName = true
  inside : ∀ c ∈ name, continuesBareName c = true

theorem IsBare.ne_nil (own : IsBare bare) : bare ≠ [] := by
  rintro rfl
  cases own.front

theorem isBare_cons_iff :
    IsBare (c :: rest) ↔ startsBareName c = true ∧ rest.all continuesBareName = true := by
  rw [List.all_eq_true]
  constructor
  · exact fun own => ⟨own.front, fun d mem => own.inside d (List.mem_cons_of_mem c mem)⟩
  · rintro ⟨front, inside⟩
    refine ⟨front, List.forall_mem_cons.mpr ⟨?_, inside⟩⟩
    rw [startsBareName, Bool.or_assoc, Bool.or_eq_true] at front
    rw [continuesBareName, Char.isAlphanum, Bool.or_assoc, Bool.or_assoc, Bool.or_eq_true,
      Bool.or_eq_true]
    exact front.imp_right Or.inr

theorem feed_not_mem_of_isBare (own : IsBare bare) : '\n' ∉ bare := by
  intro mem
  have inside := own.inside _ mem
  revert inside
  decide

/-- A name is let through bare exactly if it is a bare name, or one with a line feed behind. -/
theorem isBareName_iff :
    isBareName name = true ↔ IsBare name ∨ ∃ bare, IsBare bare ∧ name = bare ++ ['\n'] := by
  cases name with
  | nil =>
      refine iff_of_false Bool.false_ne_true ?_
      rintro (own | ⟨bare, -, same⟩)
      · cases own.front
      · simp at same
  | cons c rest =>
      rw [isBareName, Bool.and_eq_true, ← isBare_cons_iff]
      split
      case isTrue feed =>
          obtain ⟨front, rfl⟩ := List.getLast?_eq_some_iff.mp feed
          rw [List.dropLast_concat]
          constructor
          · exact fun own => Or.inr ⟨c :: front, own, rfl⟩
          · rintro (own | ⟨bare, own, same⟩)
            · exact absurd (by simp) (feed_not_mem_of_isBare own)
            · rw [← List.cons_append] at same
              rwa [List.append_cancel_right same]
      case isFalse other =>
          constructor
          · exact Or.inl
          · rintro (own | ⟨bare, own, same⟩)
            · exact own
            · cases bare with
              | nil => cases own.front
              | cons d more =>
                  obtain ⟨-, rfl⟩ := List.cons.inj same
                  exact absurd List.getLast?_concat other

end DesignTokens.Script
