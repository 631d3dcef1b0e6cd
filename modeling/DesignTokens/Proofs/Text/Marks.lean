import Mathlib.Data.List.Infix

/-!
# Marks of two characters

A mark of two characters that stands in a text begins at one of its characters. Where two texts
meet no mark arises unless the first text ends and the second one starts with its characters.
-/

namespace DesignTokens.Text

variable {a b c : Char} {first second rest : List Char}

theorem mark_infix_cons_iff :
    [a, b] <:+: c :: rest ↔ c = a ∧ rest.head? = some b ∨ [a, b] <:+: rest := by
  have front : [a, b] <+: c :: rest ↔ c = a ∧ rest.head? = some b := by
    rw [List.cons_prefix_cons, @eq_comm _ a c]
    apply and_congr_right
    intro _
    cases rest with
    | nil => simp
    | cons d more => simp [List.cons_prefix_cons, @eq_comm _ b d]
  rw [List.infix_cons_iff, front]

theorem mark_infix_append_iff (bound : first.getLast? ≠ some a ∨ second.head? ≠ some b) :
    [a, b] <:+: first ++ second ↔ [a, b] <:+: first ∨ [a, b] <:+: second := by
  induction first with
  | nil => simp
  | cons c rest ih =>
      cases rest with
      | nil =>
          rw [List.singleton_append, mark_infix_cons_iff, mark_infix_cons_iff]
          simp only [List.getLast?_singleton, ne_eq, Option.some.injEq] at bound
          simp only [List.head?_nil, reduceCtorEq, and_false, List.infix_nil, List.cons_ne_nil,
            or_false, false_or]
          exact or_iff_right fun both => bound.elim (fun other => other both.1)
            fun other => other both.2
      | cons d others =>
          rw [List.getLast?_cons_cons] at bound
          have whole : [a, b] <:+: c :: (d :: others ++ second) ↔
              c = a ∧ d = b ∨ [a, b] <:+: d :: others ++ second := by
            simp [mark_infix_cons_iff]
          have front : [a, b] <:+: c :: d :: others ↔
              c = a ∧ d = b ∨ [a, b] <:+: d :: others := by
            simp [mark_infix_cons_iff]
          rw [List.cons_append, whole, ih bound, front, or_assoc]

theorem mark_not_infix_of_notMem (absent : a ∉ rest ∨ b ∉ rest) : ¬[a, b] <:+: rest := by
  intro marked
  rcases absent with first | second
  · exact first (marked.subset List.mem_cons_self)
  · exact second (marked.subset (List.mem_cons_of_mem a List.mem_cons_self))

/-- A text between others brings in the only marks if these have none and start and end
otherwise. -/
theorem mark_infix_between_iff {before text after : List Char} (start : a ∉ before)
    (close : after.head? ≠ some b) (quiet : ¬[a, b] <:+: after) :
    [a, b] <:+: before ++ text ++ after ↔ [a, b] <:+: text := by
  have bound : before.getLast? ≠ some a := fun last => start (List.mem_of_getLast? last)
  rw [mark_infix_append_iff (Or.inr close), mark_infix_append_iff (Or.inl bound),
    or_iff_left quiet, or_iff_right (mark_not_infix_of_notMem (Or.inl start))]

end DesignTokens.Text
