import DesignTokens.Proofs.Text.FeedLines
import DesignTokens.Proofs.Text.Marks
import DesignTokens.Text.Blank
import Mathlib.Data.List.Infix
import Mathlib.Data.List.TakeWhile

/-!
# Block comments

A block comment of generated code ends at the first end mark behind its opening, wherever the
mark came from. Texts that are written into a comment keep it open as long as none of them has an
end mark and no mark arises where they meet.
-/

namespace DesignTokens.Text

/-- A text with an end mark of block comments in it. -/
def Closes (text : List Char) : Prop :=
  ['*', '/'] <:+: text

instance (text : List Char) : Decidable (Closes text) :=
  inferInstanceAs (Decidable (_ <:+: _))

/-- What stands behind the first end mark of a text. -/
def behindMark? : List Char → Option (List Char)
  | [] => none
  | c :: rest => if c = '*' ∧ rest.head? = some '/' then some rest.tail else behindMark? rest

/-- What stands behind the block comment that a text starts with. -/
def commentRest? : List Char → Option (List Char)
  | '/' :: '*' :: inside => behindMark? inside
  | _ => none

section Closes

variable {c : Char} {text first second rest : List Char}

@[simp] theorem not_closes_nil : ¬Closes [] := by
  rw [Closes, List.infix_nil]
  exact List.cons_ne_nil _ _

theorem closes_cons_iff :
    Closes (c :: rest) ↔ c = '*' ∧ rest.head? = some '/' ∨ Closes rest :=
  mark_infix_cons_iff

theorem closes_cons_of_ne (other : c ≠ '*') : Closes (c :: rest) ↔ Closes rest := by
  rw [closes_cons_iff, or_iff_right fun both => other both.1]

theorem not_closes_of_not_mem (absent : '*' ∉ text ∨ '/' ∉ text) : ¬Closes text :=
  mark_not_infix_of_notMem absent

/-- Where two texts meet no end mark arises, unless the first one ends with a star and the second
one starts with a slash. -/
theorem closes_append_iff
    (bound : first.getLast? ≠ some '*' ∨ second.head? ≠ some '/') :
    Closes (first ++ second) ↔ Closes first ∨ Closes second :=
  mark_infix_append_iff bound

/-- A text between others brings in the only end marks if these have none and start and end
otherwise. -/
theorem closes_between_iff {before after : List Char} (star : '*' ∉ before)
    (slash : after.head? ≠ some '/') (quiet : ¬Closes after) :
    Closes (before ++ text ++ after) ↔ Closes text :=
  mark_infix_between_iff star slash quiet

end Closes

section BehindMark

variable {inner : List Char}

/-- Behind a text with an end mark, more of the text itself may be left. -/
theorem exists_behindMark?_of_closes (closes : Closes inner) (more : List Char) :
    ∃ left, behindMark? (inner ++ more) = some (left ++ more) := by
  induction inner with
  | nil => exact absurd closes not_closes_nil
  | cons c rest ih =>
      cases rest with
      | nil => simp [closes_cons_iff] at closes
      | cons d others =>
          rw [closes_cons_iff] at closes
          rw [List.cons_append, behindMark?]
          split
          case isTrue => exact ⟨others, rfl⟩
          case isFalse other => exact ih (closes.resolve_left other)

theorem behindMark?_of_not_closes (quiet : ¬Closes inner) (rest : List Char) :
    behindMark? (inner ++ '*' :: '/' :: rest) = some rest := by
  induction inner with
  | nil => rfl
  | cons c others ih =>
      rw [closes_cons_iff, not_or] at quiet
      have other : ¬(c = '*' ∧ (others ++ '*' :: '/' :: rest).head? = some '/') := by
        cases others with
        | nil => simp
        | cons d further => exact quiet.1
      rw [List.cons_append, behindMark?, if_neg other, ih quiet.2]

/-- A comment ends at its own mark exactly if nothing inside has one. -/
theorem behindMark?_append_eq_iff (inner rest : List Char) :
    behindMark? (inner ++ '*' :: '/' :: rest) = some rest ↔ ¬Closes inner := by
  constructor
  · intro found closes
    obtain ⟨left, early⟩ := exists_behindMark?_of_closes closes ('*' :: '/' :: rest)
    have lengths := congrArg List.length (Option.some.inj (early.symm.trans found))
    rw [List.length_append, List.length_cons, List.length_cons] at lengths
    omega
  · exact fun quiet => behindMark?_of_not_closes quiet rest

end BehindMark

section Parts

variable {f : Char → List Char} {drop : Char → Bool}

/-- A rewriting of characters that leaves stars and slashes and makes no new ones. -/
structure KeepsMarks (f : Char → List Char) : Prop where
  star : f '*' = ['*']
  slash : f '/' = ['/']
  other : ∀ c, c ≠ '*' → c ≠ '/' → f c ≠ [] ∧ '*' ∉ f c ∧ '/' ∉ f c

theorem KeepsMarks.head?_flatMap_iff (keeps : KeepsMarks f) (text : List Char) :
    (text.flatMap f).head? = some '/' ↔ text.head? = some '/' := by
  cases text with
  | nil => rfl
  | cons c rest =>
      rw [List.flatMap_cons, List.head?_cons, Option.some.injEq]
      by_cases star : c = '*'
      · rw [star, keeps.star]
        simp
      · by_cases slash : c = '/'
        · rw [slash, keeps.slash]
          simp
        · obtain ⟨nonempty, -, absent⟩ := keeps.other c star slash
          obtain ⟨d, others, image⟩ := List.exists_cons_of_ne_nil nonempty
          rw [image] at absent ⊢
          have differ : d ≠ '/' := fun same => absent (same ▸ List.mem_cons_self)
          simp [differ, slash]

/-- The rewriting of a text has an end mark exactly if the text has one. -/
theorem KeepsMarks.closes_flatMap_iff (keeps : KeepsMarks f) (text : List Char) :
    Closes (text.flatMap f) ↔ Closes text := by
  induction text with
  | nil => rfl
  | cons c rest ih =>
      rw [List.flatMap_cons, closes_cons_iff (c := c)]
      by_cases star : c = '*'
      · rw [star, keeps.star, List.singleton_append, closes_cons_iff, ih,
          keeps.head?_flatMap_iff]
      · rw [← ih, or_iff_right fun both => star both.1]
        by_cases slash : c = '/'
        · rw [slash, keeps.slash, List.singleton_append, closes_cons_of_ne (by decide)]
        · obtain ⟨-, absent, -⟩ := keeps.other c star slash
          have bound : (f c).getLast? ≠ some '*' := fun last =>
            absent (List.mem_of_getLast? last)
          rw [closes_append_iff (Or.inl bound),
            or_iff_right (not_closes_of_not_mem (Or.inl absent))]

/-- Joined lines have an end mark exactly if one of them has. -/
theorem closes_joinLines_iff (lines : List String) :
    Closes (joinLines lines).toList ↔ ∃ line ∈ lines, Closes line.toList := by
  induction lines with
  | nil => simp [joinLines]
  | cons first rest ih =>
      cases rest with
      | nil => simp [joinLines, String.intercalate_singleton]
      | cons second more =>
          have feed : ('\n' :: (joinLines (second :: more)).toList).head? ≠ some '/' := by simp
          rw [toList_joinLines_cons_cons, closes_append_iff (Or.inr feed),
            closes_cons_of_ne (by decide), ih]
          exact (List.exists_mem_cons_iff (fun line : String => Closes line.toList) _ _).symm

/-- Dropping other characters than slashes from the end of a text keeps its end marks. -/
theorem closes_dropEnd_iff (slash : drop '/' = false) (text : List Char) :
    Closes (dropEnd drop text) ↔ Closes text := by
  have split : text = dropEnd drop text ++ (text.reverse.takeWhile drop).reverse := by
    rw [dropEnd, ← List.reverse_append, List.takeWhile_append_dropWhile, List.reverse_reverse]
  have absent : '/' ∉ (text.reverse.takeWhile drop).reverse := by
    rw [List.mem_reverse]
    intro mem
    have dropped := List.mem_takeWhile_imp mem
    rw [slash] at dropped
    cases dropped
  have bound : ((text.reverse.takeWhile drop).reverse).head? ≠ some '/' := fun here =>
    absent (List.mem_of_head? here)
  conv_rhs => rw [split]
  rw [closes_append_iff (Or.inr bound), or_iff_left (not_closes_of_not_mem (Or.inr absent))]

end Parts

end DesignTokens.Text
