import DesignTokens.Proofs.Key.Boundaries

/-!
# Keys of font families

The compact key of a font family is its slug without the hyphens, so families of one slug have
one compact key. For ASCII names it is the kebab form without the hyphens as well, but other
characters may have an ASCII letter as their lower-case form, which the kebab form does not
look at.
-/

namespace DesignTokens.Key

section Slug

/-- Making hyphens of white space changes nothing for characters that are neither. -/
theorem filter_hyphenateBlanks {keep : Char → Bool}
    (blank : ∀ c, Text.isBlank c = true → keep c = false) (hyphen : keep '-' = false)
    (inRun : Bool) (text : List Char) :
    (hyphenateBlanks inRun text).filter keep = text.filter keep := by
  induction text generalizing inRun with
  | nil => rfl
  | cons c rest ih =>
      rw [hyphenateBlanks]
      split
      case isTrue white =>
          -- neither the white space nor the hyphen in its place is kept
          rw [List.filter_cons_of_neg (by simp [blank c white])]
          split
          case isTrue => exact ih true
          case isFalse =>
              rw [List.filter_cons_of_neg (by simp [hyphen])]
              exact ih true
      case isFalse => rw [List.filter_cons, List.filter_cons, ih]

theorem isCompact_of_isBlank {c : Char} (blank : Text.isBlank c = true) : isCompact c = false := by
  rw [Bool.eq_false_iff]
  intro compact
  have inside := separatesWords_of_isPlain (isPlain_of_isCompact compact)
  rw [separatesWords, blank] at inside
  cases inside

/-- The compact key is the slug without its hyphens. -/
theorem filter_familySlug (family : String) :
    (familySlug family).toList.filter isCompact = (familyCompact family).toList := by
  have narrow : ∀ c : Char, (isCompact c && (isCompact c || c == '-')) = isCompact c := by
    intro c
    cases isCompact c <;> rfl
  rw [familySlug, familyCompact, String.toList_ofList, String.toList_ofList, List.filter_filter]
  simp only [narrow]
  exact filter_hyphenateBlanks (fun c => isCompact_of_isBlank) (by decide) false _

/-- Families of one slug have one compact key. -/
theorem familyCompact_eq_of_familySlug_eq {first second : String}
    (same : familySlug first = familySlug second) :
    familyCompact first = familyCompact second := by
  rw [← String.toList_inj, ← filter_familySlug, ← filter_familySlug, same]

end Slug

section Kebab

variable {separates : Char → Bool}

/-- The words of a text hold all of it but the separators. -/
theorem flatten_words (text : List Char) :
    (words separates text).flatten = text.filter fun c => !separates c := by
  induction text using words_induction separates with
  | nil => rfl
  | separator c rest hc ih =>
      rw [words_cons_of_separates hc, ih, List.filter_cons_of_neg (by simp [hc])]
  | single c hc => simp [words_singleton hc, hc]
  | last c next rest hc hn ih =>
      have kept : (c :: next :: rest).filter (fun c => !separates c) =
          c :: (next :: rest).filter (fun c => !separates c) :=
        List.filter_cons_of_pos (by simp [hc])
      rw [words_cons_of_last hc hn, List.flatten_cons, ih, kept]
      rfl
  | inner c next rest hc hn ih =>
      rw [words_cons_of_inner hc hn, List.filter_cons_of_pos (by simp [hc]), ← ih]
      cases words separates (next :: rest) with
      | nil => rfl
      | cons word more => rfl

/-- The marks between humps are no letters and no digits. -/
theorem filter_separateHumps (text : List Char) :
    (separateHumps text).filter isPlain = text.filter isPlain := by
  have hyphen : isPlain '-' = false := by decide
  induction text with
  | nil => rfl
  | cons c rest ih =>
      cases rest with
      | nil => rfl
      | cons next more =>
          have front : (if c.isLower && next.isUpper then [c, '-'] else [c]).filter isPlain =
              [c].filter isPlain := by
            split
            case isTrue => simp [List.filter_cons, hyphen]
            case isFalse => rfl
          rw [separateHumps_cons_cons, List.filter_append, ih, front, ← List.filter_append]
          rfl

/-- The segments of a name hold its letters and digits in lower case. -/
theorem flatMap_segments (name : String) :
    (segments name).flatMap String.toList = (name.toList.filter isPlain).map Char.toLower := by
  have plain : ∀ text : List Char, (words (fun c => !isPlain c) text).flatten =
      text.filter isPlain := by
    intro text
    rw [flatten_words]
    simp only [Bool.not_not]
  rw [segments, List.flatMap_map, ← filter_separateHumps, ← plain, List.map_flatten]
  simp only [String.toList_ofList, List.flatMap_def]

/-- The segments of a name are those of its kebab form. -/
theorem segments_kebab (name : String) : segments (kebab name) = segments name :=
  segments_intercalate '-' (by decide) fun _ mem => plain_of_mem_segments mem

end Kebab

section Ascii

/-- A text of ASCII characters. -/
def IsAscii (text : String) : Prop :=
  ∀ c ∈ text.toList, c.toNat < 0x80

instance (text : String) : Decidable (IsAscii text) :=
  List.decidableBAll (fun c : Char => c.toNat < 0x80) text.toList

/-- An ASCII text is put in lower case letter by letter. -/
theorem lower_of_ascii {text : List Char} (ascii : ∀ c ∈ text, c.toNat < 0x80) :
    Text.lower text = text.map Char.toLower := by
  rw [Text.lower, List.flatMap_congr fun c mem => lowerChar_of_ascii c (ascii c mem)]
  exact (List.map_eq_flatMap ..).symm

theorem isCompact_toLower (c : Char) : isCompact c.toLower = isPlain c := by
  rw [Bool.eq_iff_iff, isCompact_iff]
  constructor
  · intro compact
    by_cases upper : c.isUpper
    · exact isPlain_iff.mpr (Or.inl (Or.inl upper))
    · rw [toLower_eq_self (Bool.eq_false_iff.mpr upper)] at compact
      exact isPlain_of_lower_or_digit compact
  · exact lower_or_digit_toLower

theorem toList_familyCompact_of_ascii {family : String} (ascii : IsAscii family) :
    (familyCompact family).toList = (family.toList.filter isPlain).map Char.toLower := by
  rw [familyCompact, String.toList_ofList, lower_of_ascii ascii, List.filter_map]
  congr 1
  exact List.filter_congr fun c _ => isCompact_toLower c

/-- ASCII families of one kebab form have one compact key. -/
theorem familyCompact_eq_of_kebab_eq {first second : String}
    (ascii : IsAscii first) (other : IsAscii second) (same : kebab first = kebab second) :
    familyCompact first = familyCompact second := by
  rw [← String.toList_inj, toList_familyCompact_of_ascii ascii,
    toList_familyCompact_of_ascii other, ← flatMap_segments, ← flatMap_segments,
    ← segments_kebab first, ← segments_kebab second, same]

end Ascii

end DesignTokens.Key
