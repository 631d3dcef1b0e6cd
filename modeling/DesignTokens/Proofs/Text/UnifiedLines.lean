import DesignTokens.Text.Lines
import Mathlib.Data.List.Infix

/-!
# Texts of the same lines

Two texts have the same lines if they are one text once their line ends are unified. What one of
them starts with, up to a line end, the other starts with as well, and blanks in front of them
are skipped alike.
-/

namespace DesignTokens.Text

variable {s t front : List Char} {c : Char}

/-- A character that may be part of a line end. -/
def IsLineEnd (c : Char) : Prop :=
  c = '\r' ∨ c = '\n'

instance (c : Char) : Decidable (IsLineEnd c) :=
  inferInstanceAs (Decidable (_ ∨ _))

theorem unifyNewlines_cons (other : c ≠ '\r') (rest : List Char) :
    unifyNewlines (c :: rest) = c :: unifyNewlines rest := by
  rw [unifyNewlines, if_neg other]
  intro _ same
  exact absurd same other

theorem unifyNewlines_return (rest : List Char) :
    ∃ tail, unifyNewlines ('\r' :: rest) = '\n' :: tail := by
  unfold unifyNewlines
  split
  case h_1 same => cases same
  case h_2 tail _ => exact ⟨_, rfl⟩
  case h_3 d tail _ same =>
      cases same
      exact ⟨_, rfl⟩

/-- A text is empty, or starts with a character that stays, or starts with a line end. -/
theorem unifyNewlines_cases (text : List Char) :
    text = [] ∨
    (∃ c rest, text = c :: rest ∧ ¬IsLineEnd c ∧ unifyNewlines text = c :: unifyNewlines rest) ∨
    (∃ c rest tail, text = c :: rest ∧ IsLineEnd c ∧ unifyNewlines text = '\n' :: tail) := by
  cases text with
  | nil => exact .inl rfl
  | cons c rest =>
      by_cases returns : c = '\r'
      · obtain ⟨tail, unified⟩ := unifyNewlines_return rest
        exact .inr (.inr ⟨c, rest, tail, rfl, .inl returns, returns ▸ unified⟩)
      · have unified := unifyNewlines_cons returns rest
        by_cases feed : c = '\n'
        · exact .inr (.inr ⟨c, rest, unifyNewlines rest, rfl, .inr feed, feed ▸ unified⟩)
        · exact .inr (.inl ⟨c, rest, rfl, not_or.mpr ⟨returns, feed⟩, unified⟩)

theorem unifyNewlines_append (plain : ∀ c ∈ front, c ≠ '\r') (rest : List Char) :
    unifyNewlines (front ++ rest) = front ++ unifyNewlines rest := by
  induction front with
  | nil => rfl
  | cons c more ih =>
      rw [List.forall_mem_cons] at plain
      rw [List.cons_append, unifyNewlines_cons plain.1, ih plain.2, List.cons_append]

theorem unifyNewlines_unifyNewlines (text : List Char) :
    unifyNewlines (unifyNewlines text) = unifyNewlines text := by
  fun_induction unifyNewlines text with
  | case1 => rfl
  | case2 rest ih => rw [unifyNewlines_cons (by decide), ih]
  | case3 c rest apart ih =>
      rw [unifyNewlines_cons, ih]
      split
      case isTrue => decide
      case isFalse other => exact other

/-- Two texts are one text once their line ends are unified. -/
def SameLines (s t : List Char) : Prop :=
  unifyNewlines s = unifyNewlines t

namespace SameLines

theorem symm (same : SameLines s t) : SameLines t s :=
  Eq.symm same

theorem trans {u : List Char} (first : SameLines s t) (second : SameLines t u) : SameLines s u :=
  Eq.trans first second

theorem unify (text : List Char) : SameLines (unifyNewlines text) text :=
  unifyNewlines_unifyNewlines text

theorem eq_nil (same : SameLines [] t) : t = [] := by
  cases t with
  | nil => rfl
  | cons c rest =>
      by_cases returns : c = '\r'
      · obtain ⟨tail, unified⟩ := unifyNewlines_return rest
        rw [SameLines, returns, unified] at same
        cases same
      · rw [SameLines, unifyNewlines_cons returns] at same
        cases same

/-- Texts of the same lines start with the same character, unless it may end a line. -/
theorem cons (same : SameLines (c :: s) t) (plain : ¬IsLineEnd c) :
    ∃ rest, t = c :: rest ∧ SameLines s rest := by
  obtain ⟨solid, apart⟩ := not_or.mp plain
  cases t with
  | nil => cases same.symm.eq_nil
  | cons d rest =>
      rw [SameLines, unifyNewlines_cons solid] at same
      by_cases returns : d = '\r'
      · obtain ⟨tail, unified⟩ := unifyNewlines_return rest
        rw [returns, unified] at same
        exact absurd (List.cons.inj same).1 apart
      · rw [unifyNewlines_cons returns] at same
        obtain ⟨rfl, tails⟩ := List.cons.inj same
        exact ⟨rest, rfl, tails⟩

theorem append (plain : ∀ c ∈ front, ¬IsLineEnd c) (same : SameLines (front ++ s) t) :
    ∃ rest, t = front ++ rest ∧ SameLines s rest := by
  induction front generalizing t with
  | nil => exact ⟨t, rfl, same⟩
  | cons c more ih =>
      rw [List.forall_mem_cons] at plain
      obtain ⟨tail, rfl, tails⟩ := same.cons plain.1
      obtain ⟨rest, rfl, behind⟩ := ih plain.2 tails
      exact ⟨rest, rfl, behind⟩

end SameLines

section Classes

variable {p : Char → Bool}

theorem takeWhile_unifyNewlines (returns : p '\r' = false) (feed : p '\n' = false)
    (text : List Char) : (unifyNewlines text).takeWhile p = text.takeWhile p := by
  fun_induction unifyNewlines text with
  | case1 => rfl
  | case2 rest ih => simp [returns, feed]
  | case3 c rest apart ih =>
      by_cases same : c = '\r'
      · simp [same, returns, feed]
      · rw [if_neg same, List.takeWhile_cons, List.takeWhile_cons, ih]

/-- Line ends may be unified before or after characters are dropped, if both characters that may
end a line are dropped or neither is. -/
theorem dropWhile_unifyNewlines (alike : p '\r' = p '\n') (text : List Char) :
    (unifyNewlines text).dropWhile p = unifyNewlines (text.dropWhile p) := by
  fun_induction unifyNewlines text with
  | case1 => rfl
  | case2 rest ih =>
      cases feed : p '\n' with
      | true => simp [feed, alike, ih]
      | false => simp [feed, alike, unifyNewlines]
  | case3 c rest apart ih =>
      by_cases same : c = '\r'
      · subst same
        rw [if_pos rfl]
        cases feed : p '\n' with
        | true => simp [feed, alike, ih]
        | false =>
            simp only [feed, alike, List.dropWhile_cons, Bool.false_eq_true, if_false]
            rw [unifyNewlines, if_pos rfl]
            exact apart
      · rw [if_neg same, List.dropWhile_cons, List.dropWhile_cons, ih]
        split
        · rfl
        · rw [unifyNewlines_cons same]

end Classes

end DesignTokens.Text
