import DesignTokens.Key.Kebab
import Mathlib.Data.List.Nodup

/-!
# Segments of names

Segments are plain: neither empty nor with anything but lower-case ASCII letters and
digits. A mark that is no letter and no digit cuts a name in two whose segments follow
one another, so joining plain segments with such a mark loses nothing.
-/

namespace DesignTokens.Key

section Words

variable {separates : Char → Bool}

theorem words_singleton {c : Char} (h : separates c = false) : words separates [c] = [[c]] := by
  simp [words, h]

/-- A word ends in front of a separator. -/
theorem words_cons_of_last {c next : Char} (h : separates c = false)
    (last : separates next = true) (rest : List Char) :
    words separates (c :: next :: rest) = [c] :: words separates (next :: rest) := by
  rw [words, h]
  simp only [Bool.false_eq_true, if_false, last, if_true]

/-- A character joins the word that goes on after it. -/
theorem words_cons_of_inner {c next : Char} (h : separates c = false)
    (inner : separates next = false) (rest : List Char) :
    words separates (c :: next :: rest) = extendFirst c (words separates (next :: rest)) := by
  rw [words, h]
  simp only [Bool.false_eq_true, if_false, inner]

/-- Induction on a text along the cases of its words. -/
theorem words_induction (separates : Char → Bool) {motive : List Char → Prop}
    (nil : motive [])
    (separator : ∀ c rest, separates c = true → motive rest → motive (c :: rest))
    (single : ∀ c, separates c = false → motive [c])
    (last : ∀ c next rest, separates c = false → separates next = true →
      motive (next :: rest) → motive (c :: next :: rest))
    (inner : ∀ c next rest, separates c = false → separates next = false →
      motive (next :: rest) → motive (c :: next :: rest)) (s : List Char) : motive s := by
  induction s with
  | nil => exact nil
  | cons c rest ih =>
      cases h : separates c with
      | true => exact separator c rest h ih
      | false =>
          cases rest with
          | nil => exact single c h
          | cons next more =>
              cases hn : separates next with
              | true => exact last c next more h hn ih
              | false => exact inner c next more h hn ih

theorem extendFirst_ne_nil (c : Char) (ws : List (List Char)) : extendFirst c ws ≠ [] := by
  cases ws <;> simp [extendFirst]

theorem extendFirst_append {c : Char} {first : List (List Char)} (h : first ≠ [])
    (second : List (List Char)) :
    extendFirst c (first ++ second) = extendFirst c first ++ second := by
  cases first with
  | nil => exact absurd rfl h
  | cons word rest => rfl

theorem words_ne_nil {c : Char} (h : separates c = false) (rest : List Char) :
    words separates (c :: rest) ≠ [] := by
  cases rest with
  | nil => simp [words_singleton h]
  | cons next more =>
      cases hn : separates next with
      | true => simp [words_cons_of_last h hn]
      | false => simp [words_cons_of_inner h hn, extendFirst_ne_nil]

/-- A separator ends the words before it. -/
theorem words_append_of_separates {mark : Char} (h : separates mark = true)
    (s t : List Char) :
    words separates (s ++ mark :: t) = words separates s ++ words separates t := by
  induction s using words_induction separates with
  | nil => exact words_cons_of_separates h t
  | separator c rest hc ih =>
      rw [List.cons_append, words_cons_of_separates hc, words_cons_of_separates hc, ih]
  | single c hc =>
      rw [List.cons_append, List.nil_append, words_cons_of_last hc h, words_singleton hc,
        words_cons_of_separates h]
      rfl
  | last c next rest hc hn ih =>
      rw [List.cons_append, List.cons_append, words_cons_of_last hc hn, words_cons_of_last hc hn,
        ← List.cons_append, ih]
      rfl
  | inner c next rest hc hn ih =>
      rw [List.cons_append, List.cons_append, words_cons_of_inner hc hn,
        words_cons_of_inner hc hn, ← List.cons_append, ih,
        extendFirst_append (words_ne_nil hn rest)]

/-- A text without separators is one word. -/
theorem words_of_no_separator {s : List Char} (nonempty : s ≠ [])
    (h : ∀ c ∈ s, separates c = false) : words separates s = [s] := by
  induction s using words_induction separates with
  | nil => exact absurd rfl nonempty
  | separator c rest hc _ => simp [h c (by simp)] at hc
  | single c hc => exact words_singleton hc
  | last c next rest _ hn _ => simp [h next (by simp)] at hn
  | inner c next rest hc hn ih =>
      rw [words_cons_of_inner hc hn, ih (by simp) fun d hd => h d (by simp [hd])]
      rfl

/-- Words are not empty and hold no separator. -/
theorem words_spec (s : List Char) :
    ∀ word ∈ words separates s, word ≠ [] ∧ ∀ c ∈ word, separates c = false := by
  induction s using words_induction separates with
  | nil => simp
  | separator c rest hc ih => rwa [words_cons_of_separates hc]
  | single c hc => simp [words_singleton hc, hc]
  | last c next rest hc hn ih =>
      rw [words_cons_of_last hc hn]
      intro word mem
      rcases List.mem_cons.mp mem with rfl | mem
      · simp [hc]
      · exact ih word mem
  | inner c next rest hc hn ih =>
      rw [words_cons_of_inner hc hn]
      intro word mem
      cases found : words separates (next :: rest) with
      | nil => exact absurd found (words_ne_nil hn rest)
      | cons first more =>
          rw [found] at ih mem
          rcases List.mem_cons.mp mem with rfl | mem
          · refine ⟨by simp, fun d hd => ?_⟩
            rcases List.mem_cons.mp hd with rfl | hd
            · exact hc
            · exact (ih first (by simp)).2 d hd
          · exact ih word (by simp [mem])

end Words

/-- A non-empty string of lower-case ASCII letters and digits. -/
def Plain (segment : String) : Prop :=
  segment ≠ "" ∧ ∀ c ∈ segment.toList, c.isLower ∨ c.isDigit

instance (segment : String) : Decidable (Plain segment) :=
  have := List.decidableBAll (fun c : Char => c.isLower ∨ c.isDigit) segment.toList
  instDecidableAnd

section Characters

variable {c : Char}

theorem isLower_iff : c.isLower = true ↔ 97 ≤ c.toNat ∧ c.toNat ≤ 122 := by
  change (decide (97 ≤ c.val) && decide (c.val ≤ 122)) = true ↔ _
  rw [Bool.and_eq_true, decide_eq_true_eq, decide_eq_true_eq]
  exact Iff.rfl

theorem isDigit_iff : c.isDigit = true ↔ 48 ≤ c.toNat ∧ c.toNat ≤ 57 := by
  change (decide (48 ≤ c.val) && decide (c.val ≤ 57)) = true ↔ _
  rw [Bool.and_eq_true, decide_eq_true_eq, decide_eq_true_eq]
  exact Iff.rfl

theorem isUpper_iff : c.isUpper = true ↔ 65 ≤ c.toNat ∧ c.toNat ≤ 90 := by
  change decide (65 ≤ c.val ∧ c.val ≤ 90) = true ↔ _
  rw [decide_eq_true_eq]
  exact Iff.rfl

theorem isPlain_iff : isPlain c = true ↔ (c.isUpper ∨ c.isLower) ∨ c.isDigit := by
  change ((c.isUpper || c.isLower) || c.isDigit) = true ↔ _
  rw [Bool.or_eq_true, Bool.or_eq_true]

theorem isUpper_eq_false (h : c.isLower ∨ c.isDigit) : c.isUpper = false := by
  rw [Bool.eq_false_iff, ne_eq, isUpper_iff]
  rw [isLower_iff, isDigit_iff] at h
  omega

theorem isPlain_of_lower_or_digit (h : c.isLower ∨ c.isDigit) : isPlain c = true := by
  rw [isPlain_iff]
  rcases h with lower | digit
  · exact Or.inl (Or.inr lower)
  · exact Or.inr digit

theorem toLower_eq_self (h : c.isUpper = false) : c.toLower = c := by
  have outside : ¬ (65 ≤ c.toNat ∧ c.toNat ≤ 90) := by
    rw [← isUpper_iff, h]
    exact Bool.false_ne_true
  exact dif_neg outside

theorem toNat_toLower (h : c.isUpper = true) : c.toLower.toNat = c.toNat + 32 := by
  have range := isUpper_iff.mp h
  have shifted : c.toLower.val = c.val + 32 := congrArg Char.val (dif_pos range)
  have sum : c.toLower.toNat = (c.toNat + 32) % 2 ^ 32 := by
    change c.toLower.val.toNat = _
    rw [shifted, UInt32.toNat_add]
    rfl
  omega

theorem lower_or_digit_toLower (h : isPlain c = true) :
    c.toLower.isLower ∨ c.toLower.isDigit := by
  rcases isPlain_iff.mp h with (upper | lower) | digit
  · have range := isUpper_iff.mp upper
    rw [isLower_iff, toNat_toLower upper]
    exact Or.inl (by omega)
  · exact Or.inl (by rwa [toLower_eq_self (isUpper_eq_false (Or.inl lower))])
  · exact Or.inr (by rwa [toLower_eq_self (isUpper_eq_false (Or.inr digit))])

end Characters

theorem separateHumps_cons_cons (c next : Char) (rest : List Char) :
    separateHumps (c :: next :: rest) =
      (if c.isLower && next.isUpper then [c, '-'] else [c]) ++ separateHumps (next :: rest) := by
  rw [separateHumps]
  split <;> rfl

theorem separateHumps_of_no_upper {s : List Char} (h : ∀ c ∈ s, c.isUpper = false) :
    separateHumps s = s := by
  induction s with
  | nil => rfl
  | cons c rest ih =>
      cases rest with
      | nil => rfl
      | cons next more =>
          have tail := ih fun d hd => h d (by simp [hd])
          rw [separateHumps_cons_cons, tail]
          simp [h next (by simp)]

/-- A mark that is no letter hides what stands behind it from what stands before it. -/
theorem separateHumps_append {mark : Char} (h : isPlain mark = false) (s t : List Char) :
    separateHumps (s ++ mark :: t) = separateHumps s ++ mark :: separateHumps t := by
  have no_letter : mark.isUpper = false ∧ mark.isLower = false := by
    rw [Bool.eq_false_iff, ne_eq, isPlain_iff, not_or, not_or] at h
    exact ⟨Bool.eq_false_iff.mpr h.1.1, Bool.eq_false_iff.mpr h.1.2⟩
  induction s with
  | nil =>
      cases t with
      | nil => rfl
      | cons first more =>
          rw [List.nil_append, separateHumps_cons_cons]
          simp [no_letter.2, separateHumps]
  | cons c rest ih =>
      cases rest with
      | nil =>
          have tail : separateHumps (mark :: t) = mark :: separateHumps t := ih
          rw [List.cons_append, List.nil_append, separateHumps_cons_cons, tail]
          simp [no_letter.1, separateHumps]
      | cons next more =>
          rw [List.cons_append, List.cons_append, separateHumps_cons_cons,
            separateHumps_cons_cons, ← List.cons_append, ih, List.append_assoc]

/-- Segments are plain. -/
theorem plain_of_mem_segments {name segment : String} (h : segment ∈ segments name) :
    Plain segment := by
  obtain ⟨word, mem, rfl⟩ := List.mem_map.mp h
  obtain ⟨nonempty, inside⟩ := words_spec _ word mem
  constructor
  · simpa [String.ofList_eq_empty_iff] using nonempty
  · intro c hc
    rw [String.toList_ofList] at hc
    obtain ⟨d, hd, rfl⟩ := List.mem_map.mp hc
    apply lower_or_digit_toLower
    simpa using inside d hd

/-- A plain name is its own only segment. -/
theorem segments_of_plain {segment : String} (h : Plain segment) :
    segments segment = [segment] := by
  obtain ⟨nonempty, inside⟩ := h
  have one_word : words (fun c => !isPlain c) segment.toList = [segment.toList] := by
    apply words_of_no_separator
    · simpa using nonempty
    · intro c hc
      simp [isPlain_of_lower_or_digit (inside c hc)]
  have lower : segment.toList.map Char.toLower = segment.toList := by
    rw [List.map_congr_left fun c hc => toLower_eq_self (isUpper_eq_false (inside c hc))]
    exact List.map_id _
  rw [segments, separateHumps_of_no_upper fun c hc => isUpper_eq_false (inside c hc), one_word,
    List.map_singleton, lower, String.ofList_toList]

@[simp] theorem segments_empty : segments "" = [] := by decide

@[simp] theorem joinPath_empty (name : String) : joinPath "" name = name := rfl

/-- Around a mark the segments of two names follow one another. -/
theorem segments_append (mark : Char) (h : isPlain mark = false) (first second : String) :
    segments (first ++ String.singleton mark ++ second) = segments first ++ segments second := by
  have separates : (!isPlain mark) = true := by simp [h]
  simp only [segments, String.toList_append, String.toList_singleton, List.append_assoc,
    List.singleton_append, separateHumps_append h]
  rw [words_append_of_separates separates, List.map_append]

/-- The segments of a path are those of its names, one name after the other. -/
theorem segments_joinPath (parent name : String) :
    segments (joinPath parent name) = segments parent ++ segments name := by
  unfold joinPath
  split
  case isTrue h =>
      rw [String.isEmpty_iff.mp h, segments_empty, List.nil_append]
  case isFalse => exact segments_append '-' (by decide) parent name

/-- Joined names have the segments of each name in turn. -/
theorem segments_foldl_joinPath (parent : String) (names : List String) :
    segments (names.foldl joinPath parent) = segments parent ++ names.flatMap segments := by
  induction names generalizing parent with
  | nil => simp
  | cons name rest ih =>
      rw [List.foldl_cons, ih, segments_joinPath, List.append_assoc, List.flatMap_cons]

/-- Plain segments are found again after they were joined with a mark. -/
theorem segments_intercalate (mark : Char) (h : isPlain mark = false) {path : List String}
    (plain : ∀ segment ∈ path, Plain segment) :
    segments ((String.singleton mark).intercalate path) = path := by
  induction path with
  | nil => simp
  | cons first rest ih =>
      have own := segments_of_plain (plain first (by simp))
      cases rest with
      | nil => simpa using own
      | cons second more =>
          rw [String.intercalate_cons_cons, segments_append mark h, own,
            ih fun segment mem => plain segment (by simp [mem])]
          rfl

/-- Plain segments joined with hyphens are in kebab form. -/
theorem kebab_intercalate {path : List String} (plain : ∀ segment ∈ path, Plain segment) :
    kebab ("-".intercalate path) = "-".intercalate path := by
  have split : segments ("-".intercalate path) = path :=
    segments_intercalate '-' (by decide) plain
  rw [kebab, split]

/-- Paths of plain segments are told apart by their segments joined with a mark. -/
theorem nodup_map_intercalate (mark : Char) (separates : isPlain mark = false)
    {paths : List (List String)} (nodup : paths.Nodup)
    (plain : ∀ path ∈ paths, ∀ segment ∈ path, Plain segment) :
    (paths.map (String.singleton mark).intercalate).Nodup := by
  refine nodup.map_on ?_
  intro path mem other listed same
  calc
    path = segments ((String.singleton mark).intercalate path) :=
      (segments_intercalate mark separates (plain path mem)).symm
    _ = segments ((String.singleton mark).intercalate other) := by rw [same]
    _ = other := segments_intercalate mark separates (plain other listed)

end DesignTokens.Key
