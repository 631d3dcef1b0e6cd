import DesignTokens.Proofs.Text.FeedLines

/-!
# Excerpts and lines

Two counts of lines meet in an error message: the number of a line counts line feeds, and the
excerpt with this number is taken from a text that other characters break as well. Behind a line
feed both start anew, so the excerpt with the number of a line starts where the line does exactly
if every break before it is a line feed or a carriage return right before one.

-/

namespace DesignTokens.Text

/-- The excerpts of a text, each with the number of characters before it, from the characters of the
first one read so far in reverse and their place. -/
def excerptSpansFrom (start : Nat) (current : List Char) : List Char → List (Nat × List Char)
  | [] => if current.isEmpty then [] else [(start, current.reverse)]
  | '\r' :: '\n' :: rest =>
    (start, current.reverse) :: excerptSpansFrom (start + current.length + 2) [] rest
  | c :: rest =>
    if isLineBreak c then
      (start, current.reverse) :: excerptSpansFrom (start + current.length + 1) [] rest
    else excerptSpansFrom start (c :: current) rest

/-- The excerpts of a text, each with the number of characters before it. -/
def excerptSpans (text : List Char) : List (Nat × List Char) :=
  excerptSpansFrom 0 [] text

theorem map_snd_excerptSpansFrom (start : Nat) (current text : List Char) :
    (excerptSpansFrom start current text).map Prod.snd = excerptLinesFrom current text := by
  fun_induction excerptSpansFrom start current text with
  | case1 start current empty => simp [excerptLinesFrom, empty]
  | case2 start current full => simp [excerptLinesFrom, full]
  | case3 start current rest ih => rw [List.map_cons, ih, excerptLinesFrom]
  | case4 start current c rest single breaks ih =>
      rw [List.map_cons, ih, excerptLinesFrom, if_pos breaks]
      exact single
  | case5 start current c rest single plain ih =>
      rw [ih, excerptLinesFrom, if_neg plain]
      exact single

/-- The breaks of a text other than line feeds and the carriage returns right before them. -/
def strayBreaks : List Char → Nat
  | [] => 0
  | '\r' :: '\n' :: rest => strayBreaks rest
  | c :: rest => (if isLineBreak c ∧ c ≠ '\n' then 1 else 0) + strayBreaks rest

section Breaks

variable {c : Char} {rest current : List Char} {start : Nat}

/-- A character that breaks a line alone. -/
def BreaksAlone (c : Char) (rest : List Char) : Prop :=
  isLineBreak c = true ∧ (c = '\r' → rest.head? ≠ some '\n')

/-- A text is read character by character, but for carriage returns with a line feed. -/
theorem breakInduction {motive : List Char → Prop} (nil : motive [])
    (plain : ∀ c rest, isLineBreak c = false → motive rest → motive (c :: rest))
    (pair : ∀ rest, motive rest → motive ('\r' :: '\n' :: rest))
    (alone : ∀ c rest, BreaksAlone c rest → motive rest → motive (c :: rest)) :
    ∀ text, motive text := by
  intro text
  fun_induction strayBreaks text with
  | case1 => exact nil
  | case2 rest ih => exact pair rest ih
  | case3 c rest single ih =>
      cases breaks : isLineBreak c with
      | false => exact plain c rest breaks ih
      | true =>
          refine alone c rest ⟨breaks, fun returns feed => ?_⟩ ih
          obtain ⟨tail, rfl⟩ := List.head?_eq_some_iff.mp feed
          exact single tail returns rfl

theorem excerptSpansFrom_plain (plain : isLineBreak c = false) :
    excerptSpansFrom start current (c :: rest) = excerptSpansFrom start (c :: current) rest := by
  rw [excerptSpansFrom, if_neg (by simp [plain])]
  rintro tail rfl
  cases plain

theorem excerptSpansFrom_alone (alone : BreaksAlone c rest) :
    excerptSpansFrom start current (c :: rest) =
      (start, current.reverse) :: excerptSpansFrom (start + current.length + 1) [] rest := by
  rw [excerptSpansFrom, if_pos alone.1]
  rintro tail rfl rfl
  exact alone.2 rfl rfl

theorem strayBreaks_plain (plain : isLineBreak c = false) :
    strayBreaks (c :: rest) = strayBreaks rest := by
  rw [strayBreaks, if_neg (by simp [plain]), Nat.zero_add]
  rintro tail rfl
  cases plain

theorem strayBreaks_alone (alone : BreaksAlone c rest) :
    strayBreaks (c :: rest) = (if c = '\n' then 0 else 1) + strayBreaks rest := by
  rw [strayBreaks]
  · simp only [alone.1, true_and, ne_eq, ite_not]
  · rintro tail rfl rfl
    exact alone.2 rfl rfl

end Breaks

/-- A text of whole lines is empty or ends with a line feed. -/
def WholeLines (text : List Char) : Prop :=
  ∀ c ∈ text.getLast?, c = '\n'

section WholeLines

variable {c : Char} {front rest current text shown : List Char} {start : Nat}

theorem WholeLines.tail (whole : WholeLines (c :: rest)) : WholeLines rest := by
  intro last mem
  apply whole
  rw [List.getLast?_cons, Option.mem_def.mp mem]
  rfl

theorem WholeLines.eq_feed (whole : WholeLines [c]) : c = '\n' :=
  whole c rfl

/-- In whole lines every carriage return has a character behind it. -/
theorem WholeLines.breaksAlone_append (whole : WholeLines (c :: rest)) (alone : BreaksAlone c rest)
    (more : List Char) : BreaksAlone c (rest ++ more) := by
  refine ⟨alone.1, fun returns => ?_⟩
  cases rest with
  | nil =>
      have feed := whole.eq_feed
      rw [returns] at feed
      cases feed
  | cons next others => exact alone.2 returns

/-- Behind whole lines the excerpts start anew. -/
theorem excerptSpansFrom_append (whole : WholeLines text) (fresh : text = [] → current = [])
    (rest : List Char) :
    excerptSpansFrom start current (text ++ rest) = excerptSpansFrom start current text ++
      excerptSpansFrom (start + current.length + text.length) [] rest := by
  induction text using breakInduction generalizing start current with
  | nil =>
      rw [fresh rfl]
      rfl
  | plain c others plain ih =>
      -- Only here the first excerpt goes on, so the text does not end yet.
      have goes_on : others ≠ [] := by
        rintro rfl
        rw [whole.eq_feed] at plain
        cases plain
      rw [List.cons_append, excerptSpansFrom_plain plain, excerptSpansFrom_plain plain,
        ih whole.tail fun none => absurd none goes_on, List.length_cons, List.length_cons]
      congr 2
      omega
  | pair others ih =>
      simp only [List.cons_append, excerptSpansFrom, ih whole.tail.tail fun _ => rfl]
      rw [List.length_nil, List.length_cons, List.length_cons]
      congr 3
      omega
  | alone c others alone ih =>
      rw [List.cons_append, excerptSpansFrom_alone (whole.breaksAlone_append alone rest),
        excerptSpansFrom_alone alone, ih whole.tail fun _ => rfl, List.cons_append]
      rw [List.length_nil, List.length_cons]
      congr 3
      omega

/-- Every excerpt starts within the text. -/
theorem fst_lt_of_mem_excerptSpansFrom :
    ∀ span ∈ excerptSpansFrom start current text,
      span.1 < start + current.length + text.length := by
  induction text using breakInduction generalizing start current with
  | nil =>
      rw [excerptSpansFrom]
      split
      case isTrue => exact List.forall_mem_nil _
      case isFalse full =>
          rw [List.isEmpty_iff] at full
          have long := List.length_pos_iff.mpr full
          rw [List.forall_mem_singleton, List.length_nil]
          omega
  | plain c rest plain ih =>
      rw [excerptSpansFrom_plain plain]
      intro span mem
      have bound := ih span mem
      rw [List.length_cons] at *
      omega
  | pair rest ih =>
      rw [excerptSpansFrom, List.forall_mem_cons, List.length_cons, List.length_cons]
      refine ⟨by omega, fun span mem => ?_⟩
      have bound := ih span mem
      rw [List.length_nil] at bound
      omega
  | alone c rest alone ih =>
      rw [excerptSpansFrom_alone alone, List.forall_mem_cons, List.length_cons]
      refine ⟨by omega, fun span mem => ?_⟩
      have bound := ih span mem
      rw [List.length_nil] at bound
      omega

/-- Whole lines have an excerpt for each of their line feeds and for each stray break. -/
theorem length_excerptSpansFrom (whole : WholeLines text) (fresh : text = [] → current = []) :
    (excerptSpansFrom start current text).length = text.count '\n' + strayBreaks text := by
  induction text using breakInduction generalizing start current with
  | nil =>
      rw [fresh rfl]
      rfl
  | plain c rest plain ih =>
      have other : c ≠ '\n' := by
        rintro rfl
        cases plain
      have goes_on : rest ≠ [] := by
        rintro rfl
        exact other whole.eq_feed
      rw [excerptSpansFrom_plain plain, ih whole.tail fun none => absurd none goes_on,
        List.count_cons_of_ne other, strayBreaks_plain plain]
  | pair rest ih =>
      rw [excerptSpansFrom, List.length_cons, ih whole.tail.tail fun _ => rfl, strayBreaks,
        List.count_cons_of_ne (by decide), List.count_cons_self, Nat.add_right_comm]
  | alone c rest alone ih =>
      rw [excerptSpansFrom_alone alone, List.length_cons, ih whole.tail fun _ => rfl,
        strayBreaks_alone alone, List.count_cons]
      by_cases feed : c = '\n'
      · simp only [feed, beq_self_eq_true, if_true]
        omega
      · simp only [beq_iff_eq, feed, if_false]
        omega

theorem strayBreaks_append (whole : WholeLines text) (rest : List Char) :
    strayBreaks (text ++ rest) = strayBreaks text + strayBreaks rest := by
  induction text using breakInduction with
  | nil => rw [strayBreaks, Nat.zero_add, List.nil_append]
  | plain c others plain ih =>
      rw [List.cons_append, strayBreaks_plain plain, strayBreaks_plain plain, ih whole.tail]
  | pair others ih =>
      rw [List.cons_append, List.cons_append, strayBreaks, strayBreaks, ih whole.tail.tail]
  | alone c others alone ih =>
      rw [List.cons_append, strayBreaks_alone (whole.breaksAlone_append alone rest),
        strayBreaks_alone alone, ih whole.tail, Nat.add_assoc]

/-- On one line every break is stray. -/
theorem strayBreaks_eq_zero_iff (feed : '\n' ∉ text) :
    strayBreaks text = 0 ↔ ∀ c ∈ text, isLineBreak c = false := by
  induction text using breakInduction with
  | nil => exact iff_of_true rfl (List.forall_mem_nil _)
  | plain c rest plain ih =>
      rw [strayBreaks_plain plain, ih fun mem => feed (List.mem_cons_of_mem _ mem),
        List.forall_mem_cons, and_iff_right plain]
  | pair rest ih => exact absurd (List.mem_cons_of_mem _ List.mem_cons_self) feed
  | alone c rest alone ih =>
      have other : c ≠ '\n' := by
        rintro rfl
        exact feed List.mem_cons_self
      rw [strayBreaks_alone alone, if_neg other, List.forall_mem_cons]
      refine iff_of_false (by omega) fun both => ?_
      rw [alone.1] at both
      cases both.1

/-- The first excerpt goes up to the first break. -/
theorem head?_excerptSpansFrom :
    (excerptSpansFrom start current text).head? =
      if current = [] ∧ text = [] then none
      else some (start, current.reverse ++ text.takeWhile fun c => !isLineBreak c) := by
  have stop : ∀ c rest, isLineBreak c = true →
      List.takeWhile (fun c => !isLineBreak c) (c :: rest) = [] := fun c rest breaks =>
    List.takeWhile_cons_of_neg (by simp [breaks])
  induction text using breakInduction generalizing start current with
  | nil => cases current <;> simp [excerptSpansFrom]
  | plain c rest plain ih =>
      rw [excerptSpansFrom_plain plain, ih, if_neg (by simp), if_neg (by simp),
        List.takeWhile_cons_of_pos (by simp [plain]), List.reverse_cons, List.append_assoc]
      rfl
  | pair rest ih =>
      rw [excerptSpansFrom, List.head?_cons, if_neg (by simp), stop '\r' _ rfl, List.append_nil]
  | alone c rest alone ih =>
      rw [excerptSpansFrom_alone alone, List.head?_cons, if_neg (by simp), stop c rest alone.1,
        List.append_nil]

end WholeLines

section Numbered

variable {front rest shown : List Char} {start : Nat}

theorem excerptSpans_append (whole : WholeLines front) (rest : List Char) :
    excerptSpans (front ++ rest) = excerptSpans front ++ excerptSpansFrom front.length [] rest := by
  rw [excerptSpans, excerptSpansFrom_append whole (fun _ => rfl)]
  simp [excerptSpans]

/-- Behind whole lines without a stray break stands the excerpt with the number of the next line. -/
theorem excerptSpans_getElem?_of_steady (whole : WholeLines front) (steady : strayBreaks front = 0)
    (rest : List Char) :
    (excerptSpans (front ++ rest))[front.count '\n']? =
      if rest = [] then none else some (front.length, rest.takeWhile fun c => !isLineBreak c) := by
  have length : (excerptSpans front).length = front.count '\n' := by
    rw [excerptSpans, length_excerptSpansFrom whole fun _ => rfl, steady, Nat.add_zero]
  rw [excerptSpans_append whole, ← length, List.getElem?_append_right (Nat.le_refl _),
    Nat.sub_self, ← List.head?_eq_getElem?, head?_excerptSpansFrom]
  simp

/-- After a stray break the excerpt with the number of the next line starts before this line. -/
theorem lt_of_excerptSpans_getElem? (whole : WholeLines front) (stray : strayBreaks front ≠ 0)
    (here : (excerptSpans (front ++ rest))[front.count '\n']? = some (start, shown)) :
    start < front.length := by
  have length : (excerptSpans front).length = front.count '\n' + strayBreaks front :=
    length_excerptSpansFrom whole fun _ => rfl
  rw [excerptSpans_append whole, List.getElem?_append_left (by omega)] at here
  simpa using fst_lt_of_mem_excerptSpansFrom _ (List.mem_of_getElem? here)

/-- As many line feeds as stand in whole lines stand before the next line. -/
theorem feedLines_getElem? (whole : WholeLines front) (rest : List Char) :
    (feedLines (front ++ rest))[front.count '\n']? = (feedLines rest).head? := by
  rcases List.eq_nil_or_concat front with rfl | ⟨lines, last, rfl⟩
  · exact List.head?_eq_getElem?.symm
  · rw [List.concat_eq_append] at *
    obtain rfl : last = '\n' := whole last List.getLast?_concat
    have length : (feedLines lines).length = (lines ++ ['\n']).count '\n' := by
      rw [length_feedLines, List.count_append, List.count_singleton_self]
    rw [List.append_assoc, List.singleton_append, feedLines_append_feed, ← length,
      List.getElem?_append_right (Nat.le_refl _), Nat.sub_self, List.head?_eq_getElem?]

end Numbered

end DesignTokens.Text
