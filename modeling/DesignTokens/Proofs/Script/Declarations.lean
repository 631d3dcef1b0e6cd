import DesignTokens.Proofs.Text.FeedLines
import Mathlib.Data.List.Basic

/-!
# Declared names

Generated code declares a name on a line of its own, between two fixed texts. The declared
names of a file are found again line by line; a line that starts with another character than
the declarations declares nothing.
-/

namespace DesignTokens.Script

variable (opening closing : String)

/-- The name that a line declares between an opening and a closing. -/
def declaredIn? (line : List Char) : Option String :=
  ((opening.toList.isPrefixOf? line).bind closing.toList.isSuffixOf?).map String.ofList

/-- The names that the lines of a text declare, in order. -/
def declared (text : String) : List String :=
  (Text.feedLines text.toList).filterMap (declaredIn? opening closing)

theorem declaredIn?_eq_some_iff (line : List Char) (name : String) :
    declaredIn? opening closing line = some name ↔
      line = opening.toList ++ name.toList ++ closing.toList := by
  simp only [declaredIn?, Option.map_eq_some_iff, Option.bind_eq_some_iff,
    List.isPrefixOf?_eq_some_iff_append_eq, List.isSuffixOf?_eq_some_iff_append_eq]
  constructor
  · rintro ⟨inside, ⟨rest, rfl, rfl⟩, rfl⟩
    rw [String.toList_ofList, List.append_assoc]
  · rintro rfl
    exact ⟨name.toList, ⟨name.toList ++ closing.toList, (List.append_assoc ..).symm, rfl⟩,
      String.ofList_toList⟩

/-- The declared names of two texts follow one another. -/
theorem declared_append_feed (first second : String) :
    declared opening closing (first ++ "\n" ++ second) =
      declared opening closing first ++ declared opening closing second := by
  have split : (first ++ "\n" ++ second).toList = first.toList ++ '\n' :: second.toList := by
    rw [String.toList_append, String.toList_append, List.append_assoc]
    rfl
  rw [declared, split, Text.feedLines_append_feed, List.filterMap_append]
  rfl

theorem declared_joinLines {lines : List String} (nonempty : lines ≠ []) :
    declared opening closing (Text.joinLines lines) =
      lines.flatMap (declared opening closing) := by
  rw [declared, Text.feedLines_joinLines nonempty, List.filterMap_flatMap]
  rfl

variable {opening closing}

/-- A line of a declaration declares its name and nothing else. -/
theorem declared_declaration {name : String}
    (feed : '\n' ∉ opening.toList ++ name.toList ++ closing.toList) :
    declared opening closing (opening ++ name ++ closing) = [name] := by
  have found := (declaredIn?_eq_some_iff opening closing _ name).mpr rfl
  rw [declared, String.toList_append, String.toList_append, Text.feedLines_of_feed_not_mem feed,
    List.filterMap_cons_some found, List.filterMap_nil]

/-- A text declares nothing if no line starts as declarations do. -/
theorem declared_eq_nil {c : Char} (starts : opening.toList.head? = some c) {text : String}
    (quiet : Text.NoLineStarts c text.toList) : declared opening closing text = [] := by
  rw [declared, List.filterMap_eq_nil_iff]
  intro line mem
  rw [Option.eq_none_iff_forall_ne_some]
  intro name found
  apply quiet line mem
  rw [(declaredIn?_eq_some_iff opening closing line name).mp found, List.append_assoc,
    List.head?_append, starts]
  rfl

/-- A line that starts otherwise declares nothing. -/
theorem declared_line_eq_nil {c : Char} (starts : opening.toList.head? = some c) {line : String}
    (other : line.toList.head? ≠ some c) (feed : '\n' ∉ line.toList) :
    declared opening closing line = [] :=
  declared_eq_nil starts (Text.noLineStarts_of_feed_not_mem feed other)

/-- A declaration of several lines, the last of which starts otherwise, declares its name and
whatever its body declares. -/
theorem declared_block {c : Char} (starts : opening.toList.head? = some c) {name last : String}
    (feed : '\n' ∉ opening.toList ++ name.toList ++ closing.toList)
    (other : last.toList.head? ≠ some c) (solid : '\n' ∉ last.toList) (body : String) :
    declared opening closing (opening ++ name ++ closing ++ "\n" ++ body ++ "\n" ++ last ++ "\n") =
      name :: declared opening closing body := by
  have final : declared opening closing "" = [] :=
    declared_line_eq_nil starts (by simp) (by simp)
  have split : opening ++ name ++ closing ++ "\n" ++ body ++ "\n" ++ last ++ "\n" =
      opening ++ name ++ closing ++ "\n" ++ body ++ "\n" ++ last ++ "\n" ++ "" := by
    rw [String.append_empty]
  rw [split, declared_append_feed, declared_append_feed, declared_append_feed,
    declared_declaration feed, declared_line_eq_nil starts other solid, final, List.append_nil,
    List.append_nil]
  rfl

/-- Joined texts declare what each of them declares. -/
theorem declared_joinLines_map {α : Type} {c : Char} (starts : opening.toList.head? = some c)
    (write : α → String) (entries : List α) :
    declared opening closing (Text.joinLines (entries.map write)) =
      entries.flatMap fun entry => declared opening closing (write entry) := by
  by_cases none : entries = []
  · subst none
    apply declared_eq_nil starts
    exact Text.noLineStarts_joinLines fun line mem => absurd mem List.not_mem_nil
  · rw [declared_joinLines _ _ (List.map_eq_nil_iff.not.mpr none), List.flatMap_map]

end DesignTokens.Script
