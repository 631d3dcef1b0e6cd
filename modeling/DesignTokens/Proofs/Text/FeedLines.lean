import DesignTokens.Text.Lines

/-!
# Lines of joined texts

The lines of texts that are joined by a line feed are those of each text in turn. Whether some
line starts with a given character is therefore settled text by text.
-/

namespace DesignTokens.Text

theorem feedLines_append_feed (first second : List Char) :
    feedLines (first ++ '\n' :: second) = feedLines first ++ feedLines second :=
  List.splitOn_append_cons_self first second

theorem feedLines_of_feed_not_mem {text : List Char} (feed : '\n' ∉ text) :
    feedLines text = [text] :=
  List.splitOn_eq_singleton feed

/-- A text has one line more than line feeds. -/
theorem length_feedLines (text : List Char) :
    (feedLines text).length = text.count '\n' + 1 := by
  induction feeds : text.count '\n' generalizing text with
  | zero =>
      rw [feedLines_of_feed_not_mem (List.count_eq_zero.mp feeds), List.length_singleton]
  | succ count ih =>
      have mem : '\n' ∈ text := List.count_pos_iff.mp (by omega)
      obtain ⟨first, rest, rfl, apart⟩ := List.eq_append_cons_of_mem mem
      rw [List.count_append, List.count_cons_self, List.count_eq_zero.mpr apart, Nat.zero_add,
        Nat.add_right_cancel_iff] at feeds
      rw [feedLines_append_feed, feedLines_of_feed_not_mem apart, List.singleton_append,
        List.length_cons, ih rest feeds]

theorem toList_joinLines_cons_cons (first second : String) (rest : List String) :
    (joinLines (first :: second :: rest)).toList =
      first.toList ++ '\n' :: (joinLines (second :: rest)).toList := by
  rw [joinLines, String.intercalate_cons_cons, String.toList_append, String.toList_append,
    List.append_assoc]
  rfl

/-- Joined lines have a feed behind each of them but the last one. -/
theorem toList_joinLines_append_last (lines : List String) (last : String) :
    (joinLines (lines ++ [last])).toList =
      (lines.flatMap fun line => line.toList ++ ['\n']) ++ last.toList := by
  induction lines with
  | nil => simp [joinLines]
  | cons first rest ih =>
      have split : (joinLines (first :: (rest ++ [last]))).toList =
          first.toList ++ '\n' :: (joinLines (rest ++ [last])).toList := by
        cases rest with
        | nil => exact toList_joinLines_cons_cons first last []
        | cons second more => exact toList_joinLines_cons_cons first second (more ++ [last])
      rw [List.cons_append, split, ih]
      simp

theorem toList_joinLines_concat {lines : List String} (nonempty : lines ≠ []) (last : String) :
    (joinLines (lines ++ [last])).toList = (joinLines lines).toList ++ '\n' :: last.toList := by
  obtain ⟨front, final, rfl⟩ := (List.eq_nil_or_concat lines).resolve_left nonempty
  rw [List.concat_eq_append, toList_joinLines_append_last, toList_joinLines_append_last]
  simp

/-- The lines of joined lines are those of each of them, if there is one at all. -/
theorem feedLines_joinLines {lines : List String} (nonempty : lines ≠ []) :
    feedLines (joinLines lines).toList = lines.flatMap fun line => feedLines line.toList := by
  induction lines with
  | nil => exact absurd rfl nonempty
  | cons first rest ih =>
      cases rest with
      | nil =>
          rw [joinLines, String.intercalate_singleton, List.flatMap_singleton]
      | cons second more =>
          rw [toList_joinLines_cons_cons, feedLines_append_feed, ih (List.cons_ne_nil _ _)]
          rfl

/-- A property of a mark and of all characters of some texts is one of all characters of the texts
joined by the mark. -/
theorem forall_mem_intercalate {holds : Char → Prop} {mark : Char} (own : holds mark)
    {texts : List String} (each : ∀ text ∈ texts, ∀ c ∈ text.toList, holds c) :
    ∀ c ∈ ((String.singleton mark).intercalate texts).toList, holds c := by
  induction texts with
  | nil => simp
  | cons first rest ih =>
      cases rest with
      | nil => simpa using each first
      | cons second more =>
          have tail := ih fun text mem => each text (List.mem_cons_of_mem _ mem)
          intro c mem
          rw [String.intercalate_cons_cons, String.toList_append, String.toList_append,
            List.mem_append, List.mem_append, String.toList_singleton, List.mem_singleton] at mem
          rcases mem with (mem | rfl) | mem
          · exact each first List.mem_cons_self c mem
          · exact own
          · exact tail c mem

/-- No line of a text starts with a character. -/
def NoLineStarts (c : Char) (text : List Char) : Prop :=
  ∀ line ∈ feedLines text, line.head? ≠ some c

section NoLineStarts

variable {c : Char}

theorem noLineStarts_of_feed_not_mem {text : List Char} (feed : '\n' ∉ text)
    (other : text.head? ≠ some c) : NoLineStarts c text := by
  intro line mem
  rw [feedLines_of_feed_not_mem feed, List.mem_singleton] at mem
  rwa [mem]

theorem NoLineStarts.append_feed {first second : List Char} (quiet : NoLineStarts c first)
    (still : NoLineStarts c second) : NoLineStarts c (first ++ '\n' :: second) := by
  intro line mem
  rw [feedLines_append_feed, List.mem_append] at mem
  rcases mem with before | after
  · exact quiet line before
  · exact still line after

theorem noLineStarts_joinLines {lines : List String}
    (each : ∀ line ∈ lines, NoLineStarts c line.toList) :
    NoLineStarts c (joinLines lines).toList := by
  cases lines with
  | nil =>
      intro line mem
      obtain rfl : line = [] := List.mem_singleton.mp mem
      exact fun here => nomatch here
  | cons first rest =>
      intro line mem
      rw [feedLines_joinLines (List.cons_ne_nil first rest), List.mem_flatMap] at mem
      obtain ⟨text, listed, inside⟩ := mem
      exact each text listed line inside

end NoLineStarts

end DesignTokens.Text
