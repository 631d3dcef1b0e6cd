import DesignTokens.Proofs.Key.Families
import DesignTokens.Proofs.Key.Pieces
import Mathlib.Computability.Language

/-!
# Kebab case by rewriting

The kebab form of a name is also reached by rewriting its text in stages: hyphens are put in front
of capitals, white space and other characters are replaced by hyphens, letters are made small, and
hyphens are merged and trimmed. The stages together write one hyphen for each run of characters
between two pieces, so the kebab form is empty or made of pieces that single hyphens separate.

## Implementation notes

A stage that rewrites runs is told whether the character in front belongs to the run. The runs of
two stages are compared by this state: behind a run of the first stage the second one is within a
run as well, because the first one has just written a hyphen.
-/

namespace DesignTokens.Key

open scoped Computability

section Stages

/-- A text with a hyphen within every pair of a lower-case letter and a capital. The pairs are
looked for from the front and do not overlap. -/
def hyphenatePairs : List Char → List Char
  | first :: second :: rest =>
    if first.isLower && second.isUpper then first :: '-' :: second :: hyphenatePairs rest
    else first :: hyphenatePairs (second :: rest)
  | text => text

/-- A text with every run of a class of characters as one hyphen; `inRun` tells that the character
in front belongs to the class. -/
def hyphenateRuns (p : Char → Bool) (inRun : Bool) : List Char → List Char
  | [] => []
  | c :: rest =>
    if p c then
      if inRun then hyphenateRuns p true rest else '-' :: hyphenateRuns p true rest
    else c :: hyphenateRuns p false rest

/-- White space and low lines. -/
def isGap (c : Char) : Bool :=
  Text.isBlank c || c == '_'

/-- A hyphen in the place of any character that is no letter, no digit and no hyphen. -/
def hyphenateOther (c : Char) : Char :=
  if isPlain c || c == '-' then c else '-'

/-- The stages by which a text is brought into kebab form. -/
def rewrite (text : List Char) : List Char :=
  let spaced := hyphenateRuns isGap false (hyphenatePairs text)
  let small := Text.lower (spaced.map hyphenateOther)
  Text.dropEnds (· == '-') (hyphenateRuns (· == '-') false small)

end Stages

section Pairs

theorem separateHumps_cons_of_not_lower {c : Char} (h : c.isLower = false) (rest : List Char) :
    separateHumps (c :: rest) = c :: separateHumps rest := by
  cases rest with
  | nil => rfl
  | cons next more => simp [separateHumps_cons_cons, h]

/-- A capital starts no pair, so the pairs that do not overlap are all pairs. -/
theorem hyphenatePairs_eq_separateHumps (text : List Char) :
    hyphenatePairs text = separateHumps text := by
  induction text using hyphenatePairs.induct with
  | case1 first second rest pair ih =>
      have capital : second.isLower = false := by
        have upper : second.isUpper = true := (Bool.and_eq_true_iff.mp pair).2
        rw [Bool.eq_false_iff, ne_eq, isLower_iff]
        have bounds := isUpper_iff.mp upper
        omega
      rw [hyphenatePairs, if_pos pair, separateHumps_cons_cons, if_pos pair,
        separateHumps_cons_of_not_lower capital, ih]
      rfl
  | case2 first second rest apart ih =>
      rw [hyphenatePairs, separateHumps_cons_cons, if_neg apart, if_neg apart, ih]
      rfl
  | case3 text short =>
      match text with
      | [] => rfl
      | [c] => rfl
      | first :: second :: rest => exact absurd rfl (short first second rest)

end Pairs

section Runs

variable {p : Char → Bool}

theorem isPlain_of_isGap {c : Char} (gap : isGap c = true) : isPlain c = false := by
  rw [Bool.eq_false_iff]
  intro plain
  have inside := separatesWords_of_isPlain plain
  rw [separatesWords, Bool.or_eq_false_iff] at inside
  rw [isGap, inside.1] at gap
  cases gap

/-- Hyphens for gaps, hyphens for other characters and one hyphen for each run of hyphens amount
to one hyphen for each run of characters that are no letters and no digits. -/
theorem hyphenateRuns_stages {inGap inRun : Bool} (within : inGap = true → inRun = true)
    (text : List Char) :
    hyphenateRuns (· == '-') inRun ((hyphenateRuns isGap inGap text).map hyphenateOther) =
      hyphenateRuns (fun c => !isPlain c) inRun text := by
  have hyphen : hyphenateOther '-' = '-' := by decide
  induction text generalizing inGap inRun with
  | nil => rfl
  | cons c rest ih =>
      cases gap : isGap c with
      | true =>
          have tail := @ih true true fun _ => rfl
          have outside := isPlain_of_isGap gap
          cases inGap with
          | true =>
              obtain rfl := within rfl
              simpa [hyphenateRuns, gap, outside] using tail
          | false => cases inRun <;> simpa [hyphenateRuns, gap, outside, hyphen] using tail
      | false =>
          cases plain : isPlain c with
          | true =>
              have tail := @ih false false nofun
              have kept : hyphenateOther c = c := by simp [hyphenateOther, plain]
              have other : (c == '-') = false := by
                rw [beq_eq_false_iff_ne]
                rintro rfl
                exact absurd plain (by decide)
              simpa [hyphenateRuns, gap, plain, kept, other] using tail
          | false =>
              have tail := @ih false true nofun
              have replaced : hyphenateOther c = '-' := by
                cases mark : c == '-' with
                | true => simp [hyphenateOther, beq_iff_eq.mp mark]
                | false => simp [hyphenateOther, plain, mark]
              cases inRun <;> simpa [hyphenateRuns, gap, plain, replaced] using tail

/-- Runs are merged in the same way in small letters. -/
theorem hyphenateRuns_map {f : Char → Char} (same : ∀ c, p (f c) = p c) (hyphen : f '-' = '-')
    (inRun : Bool) (text : List Char) :
    hyphenateRuns p inRun (text.map f) = (hyphenateRuns p inRun text).map f := by
  induction text generalizing inRun with
  | nil => rfl
  | cons c rest ih =>
      simp only [List.map_cons, hyphenateRuns, same, ih]
      cases p c <;> cases inRun <;> simp [hyphen]

theorem dropEnds_map {f : Char → Char} (same : ∀ c, p (f c) = p c) (text : List Char) :
    Text.dropEnds p (text.map f) = (Text.dropEnds p text).map f := by
  have class_map : p ∘ f = p := funext same
  simp only [Text.dropEnds, Text.dropEnd, List.dropWhile_map, ← List.map_reverse, class_map]

theorem startsOutside_hyphenateRuns (hyphen : p '-' = true) (text : List Char) :
    StartsOutside (· == '-') (hyphenateRuns p true text) := by
  induction text with
  | nil => exact nofun
  | cons c rest ih =>
      rw [hyphenateRuns]
      cases inside : p c with
      | true => exact ih
      | false =>
          intro d first
          cases first
          rw [beq_eq_false_iff_ne]
          rintro rfl
          rw [hyphen] at inside
          cases inside

/-- Without the hyphen in front a text is rewritten as within a run. -/
theorem dropWhile_hyphenateRuns (hyphen : p '-' = true) (text : List Char) :
    (hyphenateRuns p false text).dropWhile (· == '-') = hyphenateRuns p true text := by
  have start := dropWhile_of_startsOutside (startsOutside_hyphenateRuns hyphen text)
  cases text with
  | nil => rfl
  | cons c rest =>
      have behind := dropWhile_of_startsOutside (startsOutside_hyphenateRuns hyphen rest)
      rw [hyphenateRuns] at start ⊢
      rw [hyphenateRuns]
      cases inside : p c with
      | true => simpa [inside] using behind
      | false => simpa [inside] using start

theorem dropEnd_append (s t : List Char) :
    Text.dropEnd p (s ++ t) =
      if Text.dropEnd p t = [] then Text.dropEnd p s else s ++ Text.dropEnd p t := by
  simp only [Text.dropEnd, List.reverse_append, List.dropWhile_append, List.isEmpty_iff,
    List.reverse_eq_nil_iff]
  split <;> simp

theorem dropEnd_of_forall {text : List Char} (outside : ∀ c ∈ text, p c = false) :
    Text.dropEnd p text = text := by
  have start : StartsOutside p text.reverse := fun c first =>
    outside c (List.mem_reverse.mp (List.mem_of_mem_head? first))
  rw [Text.dropEnd, dropWhile_of_startsOutside start, List.reverse_reverse]

/-- Characters outside of the class stay as they are. -/
theorem hyphenateRuns_append {word : List Char} (nonempty : word ≠ [])
    (outside : ∀ c ∈ word, p c = false) (inRun : Bool) (rest : List Char) :
    hyphenateRuns p inRun (word ++ rest) = word ++ hyphenateRuns p false rest := by
  induction word generalizing inRun with
  | nil => exact absurd rfl nonempty
  | cons c more ih =>
      have own := outside c List.mem_cons_self
      rw [List.cons_append, hyphenateRuns, own, if_neg Bool.false_ne_true]
      cases more with
      | nil => rfl
      | cons next others =>
          rw [ih (List.cons_ne_nil _ _) fun d mem => outside d (List.mem_cons_of_mem c mem)]
          rfl

/-- What is left behind a run and without the hyphen at the end are the words with single hyphens
between them. -/
theorem dropEnd_hyphenateRuns (hyphen : p '-' = true) (text : List Char) :
    Text.dropEnd (· == '-') (hyphenateRuns p true text) = ['-'].intercalate (words p text) := by
  induction text using runInduction p with
  | nil => rfl
  | separator c rest mark ih =>
      rw [hyphenateRuns, if_pos mark, if_pos rfl, ih, words_cons_of_separates mark]
  | word word rest nonempty inside outside ih =>
      have kept : ∀ c ∈ word, (c == '-') = false := by
        intro c mem
        rw [beq_eq_false_iff_ne]
        rintro rfl
        rw [inside '-' mem] at hyphen
        cases hyphen
      rw [words_append_of_startsOutside nonempty inside outside,
        hyphenateRuns_append nonempty inside]
      cases rest with
      | nil => simpa [hyphenateRuns] using dropEnd_of_forall kept
      | cons c more =>
          -- The run behind the word is one hyphen, which is dropped unless another word follows.
          have mark : p c = true := by simpa using outside c rfl
          rw [hyphenateRuns, if_pos mark, if_pos rfl] at ih
          rw [hyphenateRuns, if_pos mark, if_neg Bool.false_ne_true, dropEnd_append,
            ← List.singleton_append, dropEnd_append, ih]
          cases found : words p (c :: more) with
          | nil => simpa [Text.dropEnd] using dropEnd_of_forall kept
          | cons first others =>
              have occupied : ['-'].intercalate (first :: others) ≠ [] := by
                have own := (words_spec (c :: more) first (found ▸ List.mem_cons_self)).1
                cases others <;> simp [List.intercalate_cons_cons, own]
              rw [if_neg occupied, if_neg (by simp), List.intercalate_cons_cons, List.append_assoc]

end Runs

section Kebab

/-- A letter in small form is a hyphen only if it is one. -/
theorem toLower_eq_hyphen_iff (c : Char) : (c.toLower == '-') = (c == '-') := by
  cases upper : c.isUpper with
  | false => rw [toLower_eq_self upper]
  | true =>
      have bounds := isUpper_iff.mp upper
      have shifted := toNat_toLower upper
      have small : c.toLower ≠ '-' := fun same => by
        rw [same] at shifted
        have : '-'.toNat = 45 := rfl
        omega
      have capital : c ≠ '-' := fun same => by
        rw [same] at upper
        cases upper
      rw [beq_eq_false_iff_ne.mpr small, beq_eq_false_iff_ne.mpr capital]

theorem hyphenateOther_ascii (c : Char) : (hyphenateOther c).toNat < 0x80 := by
  rw [hyphenateOther]
  split
  case isTrue kept =>
      rcases Bool.or_eq_true_iff.mp kept with plain | mark
      · have bounds := isPlain_iff.mp plain
        rw [isUpper_iff, isLower_iff, isDigit_iff] at bounds
        omega
      · rw [beq_iff_eq.mp mark]
        decide
  case isFalse => decide

theorem map_intercalate (f : Char → Char) (mark : Char) (words : List (List Char)) :
    ([mark].intercalate words).map f = [f mark].intercalate (words.map (List.map f)) := by
  induction words with
  | nil => rfl
  | cons first others ih =>
      cases others with
      | nil => simp
      | cons second more =>
          rw [List.intercalate_cons_cons, List.map_append, List.map_append, ih]
          simp [List.intercalate_cons_cons]

/-- The stages keep nothing but the pieces, in small letters. -/
theorem rewrite_eq_intercalate (text : List Char) :
    rewrite text = ['-'].intercalate ((pieces text).map fun piece => piece.map Char.toLower) := by
  let spaced := hyphenateRuns isGap false (hyphenatePairs text)
  have small : Text.lower (spaced.map hyphenateOther) =
      (spaced.map hyphenateOther).map Char.toLower := by
    apply lower_of_ascii
    rw [List.forall_mem_map]
    exact fun c _ => hyphenateOther_ascii c
  have hyphen : (!isPlain '-') = true := by decide
  calc
    rewrite text
      = Text.dropEnds (· == '-')
          ((hyphenateRuns (· == '-') false (spaced.map hyphenateOther)).map Char.toLower) := by
        rw [rewrite, small, hyphenateRuns_map toLower_eq_hyphen_iff (by decide)]
    _ = (Text.dropEnds (· == '-')
          (hyphenateRuns (fun c => !isPlain c) false (hyphenatePairs text))).map Char.toLower := by
        rw [hyphenateRuns_stages Bool.false_ne_true.elim, dropEnds_map toLower_eq_hyphen_iff]
    _ = (['-'].intercalate (pieces text)).map Char.toLower := by
        rw [Text.dropEnds, dropWhile_hyphenateRuns hyphen, dropEnd_hyphenateRuns hyphen,
          hyphenatePairs_eq_separateHumps, words_separateHumps]
    _ = ['-'].intercalate ((pieces text).map fun piece => piece.map Char.toLower) := by
        rw [map_intercalate]
        rfl

theorem toList_kebab (name : String) :
    (kebab name).toList =
      ['-'].intercalate ((pieces name.toList).map fun piece => piece.map Char.toLower) := by
  rw [kebab, segments_eq_map_pieces, String.toList_intercalate, List.map_map]
  simp [Function.comp_def]

/-- Words of small letters and digits. -/
def compactWords : Language Char :=
  {word | word ≠ [] ∧ ∀ c ∈ word, isCompact c = true}

/-- Texts of the pattern `[a-z0-9]+(-[a-z0-9]+)*`. -/
def kebabForms : Language Char :=
  compactWords * ({['-']} * compactWords)∗

theorem intercalate_cons_eq (first : List Char) (others : List (List Char)) :
    ['-'].intercalate (first :: others) = first ++ (others.map (['-'] ++ ·)).flatten := by
  induction others generalizing first with
  | nil => simp
  | cons second more ih =>
      rw [List.intercalate_cons_cons, ih, List.map_cons, List.flatten_cons, List.append_assoc,
        List.append_assoc]

/-- The texts of the pattern are compact words with hyphens between them. -/
theorem mem_kebabForms_iff {text : List Char} :
    text ∈ kebabForms ↔
      ∃ words, words ≠ [] ∧ (∀ word ∈ words, word ∈ compactWords) ∧
        text = ['-'].intercalate words := by
  simp only [kebabForms, Language.mem_mul, Language.mem_kstar]
  constructor
  · rintro ⟨first, compact, _, ⟨parts, rfl, marked⟩, rfl⟩
    have small : ∀ part ∈ parts, part.tail ∈ compactWords ∧ ['-'] ++ part.tail = part := by
      intro part mem
      obtain ⟨_, rfl, word, inside, rfl⟩ := marked part mem
      exact ⟨inside, rfl⟩
    refine ⟨first :: parts.map List.tail, List.cons_ne_nil _ _, ?_, ?_⟩
    · rw [List.forall_mem_cons, List.forall_mem_map]
      exact ⟨compact, fun part mem => (small part mem).1⟩
    · have restored : (parts.map List.tail).map (['-'] ++ ·) = parts := by
        rw [List.map_map]
        exact (List.map_congr_left fun part mem => (small part mem).2).trans (List.map_id parts)
      rw [intercalate_cons_eq, restored]
  · rintro ⟨words, nonempty, all, rfl⟩
    obtain ⟨first, others, rfl⟩ := List.exists_cons_of_ne_nil nonempty
    rw [List.forall_mem_cons] at all
    refine ⟨first, all.1, _, ⟨others.map (['-'] ++ ·), rfl, ?_⟩, (intercalate_cons_eq ..).symm⟩
    rw [List.forall_mem_map]
    exact fun word mem => ⟨['-'], rfl, word, all.2 word mem, rfl⟩

theorem mem_compactWords_iff {word : List Char} :
    word ∈ compactWords ↔ Plain (String.ofList word) := by
  simp only [Plain, String.toList_ofList, ← isCompact_iff, ne_eq, String.ofList_eq_empty_iff]
  exact Iff.rfl

/-- Names in kebab form are the empty name and the names of the pattern. -/
theorem kebab_eq_self_iff {name : String} :
    kebab name = name ↔ name = "" ∨ name.toList ∈ kebabForms := by
  rw [mem_kebabForms_iff]
  constructor
  · intro fixed
    cases found : segments name with
    | nil => exact Or.inl (by rw [← fixed, kebab, found, String.intercalate_nil])
    | cons first others =>
        refine Or.inr ⟨(segments name).map String.toList, by simp [found], ?_, ?_⟩
        · rw [List.forall_mem_map]
          intro segment mem
          rw [mem_compactWords_iff, String.ofList_toList]
          exact plain_of_mem_segments mem
        · nth_rewrite 1 [← fixed]
          rw [kebab, String.toList_intercalate]
          rfl
  · rintro (rfl | ⟨words, -, compact, spelled⟩)
    · decide
    · have joined : name = "-".intercalate (words.map String.ofList) := by
        apply String.toList_injective
        rw [spelled, String.toList_intercalate, List.map_map]
        simp [Function.comp_def]
      rw [joined]
      apply kebab_intercalate
      rw [List.forall_mem_map]
      exact fun word mem => mem_compactWords_iff.mp (compact word mem)

theorem kebab_kebab (name : String) : kebab (kebab name) = kebab name := by
  rw [kebab, segments_kebab, kebab]

/-- The rewriting in stages cuts a name into its pieces and joins them, in lower case, with single
hyphens. What comes out is empty or of the pattern `[a-z0-9]+(-[a-z0-9]+)*` and is left alone by
another rewriting. -/
theorem kebab_tokenizes (name : String) :
    (kebab name).toList = rewrite name.toList ∧
      kebab name = "-".intercalate
        ((pieces name.toList).map fun piece => String.ofList (piece.map Char.toLower)) ∧
      (kebab name = "" ∨ (kebab name).toList ∈ kebabForms) ∧
      kebab (kebab name) = kebab name := by
  refine ⟨?_, ?_, ?_, kebab_kebab name⟩
  · rw [toList_kebab, rewrite_eq_intercalate]
  · rw [kebab, segments_eq_map_pieces]
  · exact kebab_eq_self_iff.mp (kebab_kebab name)

example : kebab "__SkyblueBase √50%" = "skyblue-base-50" := by decide

end Kebab

end DesignTokens.Key
