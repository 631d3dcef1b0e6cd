import DesignTokens.Proofs.Key.Boundaries
import Mathlib.Data.List.SplitBy

/-!
# Pieces of names

The words of a text are the parts between its separators that are not empty. The segments of a
name come from two cuts, at all characters other than letters and digits and in front of a capital
behind a lower-case letter, and the order of the two cuts makes no difference: the pieces of a name
are found by cutting its runs of letters and digits one by one.
-/

namespace DesignTokens.Key

section Runs

variable {separates : Char → Bool}

/-- A word in front of a separator or of nothing is the first word of the text. -/
theorem words_append_of_startsOutside {word rest : List Char} (nonempty : word ≠ [])
    (inside : ∀ c ∈ word, separates c = false)
    (outside : StartsOutside (fun c => !separates c) rest) :
    words separates (word ++ rest) = word :: words separates rest := by
  cases rest with
  | nil => rw [List.append_nil, words_of_no_separator nonempty inside, words_nil]
  | cons c more =>
      have mark : separates c = true := by simpa using outside c rfl
      rw [words_append_of_separates mark, words_of_no_separator nonempty inside,
        words_cons_of_separates mark]
      rfl

/-- A text starts with the longest front that is of a class. -/
theorem exists_append_startsOutside (p : Char → Bool) (text : List Char) :
    ∃ front rest, text = front ++ rest ∧ (∀ c ∈ front, p c = true) ∧ StartsOutside p rest := by
  refine ⟨text.takeWhile p, text.dropWhile p, List.takeWhile_append_dropWhile.symm,
    List.all_eq_true.mp List.all_takeWhile, ?_⟩
  intro c first
  have outside := List.head?_dropWhile_not p text
  rwa [Option.mem_def.mp first] at outside

/-- Induction on a text along its separators and words. -/
@[elab_as_elim]
theorem runInduction (separates : Char → Bool) {motive : List Char → Prop}
    (nil : motive [])
    (separator : ∀ c rest, separates c = true → motive rest → motive (c :: rest))
    (word : ∀ word rest, word ≠ [] → (∀ c ∈ word, separates c = false) →
      StartsOutside (fun c => !separates c) rest → motive rest → motive (word ++ rest))
    (text : List Char) : motive text := by
  induction size : text.length using Nat.strong_induction_on generalizing text with
  | _ bound ih =>
      cases text with
      | nil => exact nil
      | cons c more =>
          cases mark : separates c with
          | true => exact separator c more mark (ih more.length (by simp [← size]) more rfl)
          | false =>
              obtain ⟨front, rest, rfl, inside, outside⟩ :=
                exists_append_startsOutside (fun d => !separates d) more
              have shorter : rest.length < bound := by
                simp only [← size, List.length_cons, List.length_append]
                omega
              refine word (c :: front) rest (List.cons_ne_nil c front) ?_ outside
                (ih rest.length shorter rest rfl)
              rw [List.forall_mem_cons]
              exact ⟨mark, fun d mem => by simpa using inside d mem⟩

/-- The words are what stands between separators, as far as it is not empty. -/
theorem words_eq_filter_splitOnP (text : List Char) :
    words separates text = (text.splitOnP separates).filter (· ≠ []) := by
  induction text using runInduction separates with
  | nil => simp [List.splitOnP_nil]
  | separator c rest mark ih =>
      rw [words_cons_of_separates mark, ih, ← List.nil_append (c :: rest),
        List.splitOnP_append_cons [] rest mark, List.filter_append]
      simp [List.splitOnP_nil]
  | word word rest nonempty inside outside ih =>
      rw [words_append_of_startsOutside nonempty inside outside, ih]
      cases rest with
      | nil =>
          rw [List.append_nil, List.splitOnP_eq_singleton inside]
          simp [List.splitOnP_nil, nonempty]
      | cons c more =>
          have mark : separates c = true := by simpa using outside c rfl
          rw [List.splitOnP_append_cons word more mark, List.filter_append,
            ← List.nil_append (c :: more), List.splitOnP_append_cons [] more mark,
            List.filter_append, List.splitOnP_eq_singleton inside]
          simp [List.splitOnP_nil, nonempty]

end Runs

section Pieces

/-- A piece goes on behind a character, unless a lower-case letter is followed by a capital. -/
def goesOn (c next : Char) : Bool :=
  !(c.isLower && next.isUpper)

/-- The pieces of a text: its maximal runs of ASCII letters and digits, each of them cut between
a lower-case letter and a capital behind it. -/
def pieces (text : List Char) : List (List Char) :=
  ((text.splitOnP fun c => !isPlain c).filter (· ≠ [])).flatMap (List.splitBy goesOn)

/-- A character joins the first piece of what stands behind it if this piece goes on. -/
theorem splitBy_cons_of_goesOn {c next : Char} (joined : goesOn c next = true)
    (rest : List Char) :
    (c :: next :: rest).splitBy goesOn = extendFirst c ((next :: rest).splitBy goesOn) := by
  have occupied : (next :: rest).splitBy goesOn ≠ [] := by simp
  obtain ⟨piece, others, split⟩ := List.exists_cons_of_ne_nil occupied
  obtain ⟨whole, nonempty, chains, breaks⟩ := List.splitBy_eq_iff.mp split
  have own : piece ≠ [] := fun vacant => nonempty (vacant ▸ List.mem_cons_self)
  obtain ⟨first, more, rfl⟩ := List.exists_cons_of_ne_nil own
  obtain ⟨rfl, -⟩ : next = first ∧ _ := List.cons.inj whole
  rw [split, extendFirst, List.splitBy_eq_iff]
  refine ⟨by rw [whole]; rfl, ?_, ?_, ?_⟩
  · simpa using fun mem => nonempty (List.mem_cons_of_mem _ mem)
  · intro other mem
    rcases List.mem_cons.mp mem with rfl | mem
    · exact List.isChain_cons_cons.mpr ⟨joined, chains _ List.mem_cons_self⟩
    · exact chains other (List.mem_cons_of_mem _ mem)
  · cases others with
    | nil => exact List.isChain_singleton _
    | cons second further =>
        rw [List.isChain_cons_cons] at breaks ⊢
        obtain ⟨⟨_, occupied, apart⟩, behind⟩ := breaks
        exact ⟨⟨List.cons_ne_nil _ _, occupied, by simpa using apart⟩, behind⟩

/-- No hyphen is put in front of a text. -/
theorem exists_separateHumps_cons (c : Char) (rest : List Char) :
    ∃ tail, separateHumps (c :: rest) = c :: tail := by
  cases rest with
  | nil => exact ⟨[], rfl⟩
  | cons next more =>
      rw [separateHumps_cons_cons]
      split
      · exact ⟨_, rfl⟩
      · exact ⟨_, rfl⟩

/-- A run of letters and digits has the words that the cut in front of its capitals makes. -/
theorem words_separateHumps_of_plain {run : List Char} (nonempty : run ≠ [])
    (plain : ∀ c ∈ run, (!isPlain c) = false) :
    words (fun c => !isPlain c) (separateHumps run) = run.splitBy goesOn := by
  have hyphen : (!isPlain '-') = true := by decide
  induction run with
  | nil => exact absurd rfl nonempty
  | cons c rest ih =>
      have own := plain c List.mem_cons_self
      cases rest with
      | nil => exact words_singleton own
      | cons next more =>
          have inner : (!isPlain next) = false := plain next (by simp)
          have others := ih (List.cons_ne_nil _ _) fun d mem => plain d (List.mem_cons_of_mem c mem)
          obtain ⟨tail, begins⟩ := exists_separateHumps_cons next more
          rw [separateHumps_cons_cons]
          cases joined : goesOn c next with
          | true =>
              have step : (c.isLower && next.isUpper) = false := by
                rwa [goesOn, Bool.not_eq_true'] at joined
              rw [splitBy_cons_of_goesOn joined, ← others, step, begins]
              exact words_cons_of_inner own inner tail
          | false =>
              have step : (c.isLower && next.isUpper) = true := by
                rwa [goesOn, Bool.not_eq_false'] at joined
              have cut : (c :: next :: more).splitBy goesOn =
                  [c] :: (next :: more).splitBy goesOn :=
                List.splitBy_append_cons (l := [c]) more (by simpa using joined)
              rw [cut, ← others, step, if_pos rfl]
              calc
                words (fun c => !isPlain c) (c :: '-' :: separateHumps (next :: more))
                  = [c] :: words (fun c => !isPlain c) ('-' :: separateHumps (next :: more)) :=
                    words_cons_of_last own hyphen _
                _ = [c] :: words (fun c => !isPlain c) (separateHumps (next :: more)) := by
                    rw [words_cons_of_separates hyphen]

/-- Cutting a text in front of capitals and then at separators gives its pieces. -/
theorem words_separateHumps (text : List Char) :
    words (fun c => !isPlain c) (separateHumps text) = pieces text := by
  rw [pieces, ← words_eq_filter_splitOnP]
  induction text using runInduction fun c => !isPlain c with
  | nil => rfl
  | separator c rest mark ih =>
      have outside : isPlain c = false := by simpa using mark
      rw [← List.nil_append (c :: rest), separateHumps_append outside,
        words_append_of_separates mark, ih, List.nil_append, words_cons_of_separates mark]
      rfl
  | word word rest nonempty inside outside ih =>
      rw [words_append_of_startsOutside nonempty inside outside, List.flatMap_cons, ← ih,
        ← words_separateHumps_of_plain nonempty inside]
      cases rest with
      | nil => simp [separateHumps]
      | cons c more =>
          have mark : (!isPlain c) = true := by simpa using outside c rfl
          have apart : isPlain c = false := by simpa using mark
          rw [separateHumps_append apart, words_append_of_separates mark,
            ← List.nil_append (c :: more), separateHumps_append apart,
            words_append_of_separates mark]
          rfl

/-- The segments of a name are its pieces in lower case. -/
theorem segments_eq_map_pieces (name : String) :
    segments name =
      (pieces name.toList).map fun piece => String.ofList (piece.map Char.toLower) := by
  rw [segments, words_separateHumps]

end Pieces

end DesignTokens.Key
