import DesignTokens.Key.Camel
import DesignTokens.Key.Family
import DesignTokens.Proofs.Key.Segments

/-!
# Boundaries between words

A text ends where the first character outside a class stands. Small words, which are made of
lower-case letters and digits, therefore stay apart from what follows them if this starts with
a capital, and the capitals of small words are such a start. The camel form of a name is made
of the capital forms of its words, whichever separators stand between them.
-/

namespace DesignTokens.Key

section Boundary

variable {p : Char → Bool}

/-- A text that does not start with a character of a class. -/
def StartsOutside (p : Char → Bool) (text : List Char) : Prop :=
  ∀ c ∈ text.head?, p c = false

instance (text : List Char) : Decidable (StartsOutside p text) :=
  Option.decidableForallMem text.head?

theorem takeWhile_append_of_startsOutside {body rest : List Char}
    (inside : ∀ c ∈ body, p c = true) (outside : StartsOutside p rest) :
    (body ++ rest).takeWhile p = body := by
  have stop : rest.takeWhile p = [] := by
    cases rest with
    | nil => rfl
    | cons c more => simp [outside c rfl]
  rw [List.takeWhile_append_of_pos inside, stop, List.append_nil]

theorem dropWhile_of_startsOutside {rest : List Char} (outside : StartsOutside p rest) :
    rest.dropWhile p = rest := by
  cases rest with
  | nil => rfl
  | cons c more => rw [List.dropWhile_cons_of_neg (by simp [outside c rfl])]

/-- Two texts of a class are told apart by what they are in front of something else. -/
theorem append_inj_of_startsOutside {first second rest more : List Char}
    (inside : ∀ c ∈ first, p c = true) (within : ∀ c ∈ second, p c = true)
    (outside : StartsOutside p rest) (beyond : StartsOutside p more)
    (same : first ++ rest = second ++ more) : first = second ∧ rest = more := by
  have equal : first = second := by
    calc
      first = (first ++ rest).takeWhile p :=
        (takeWhile_append_of_startsOutside inside outside).symm
      _ = (second ++ more).takeWhile p := by rw [same]
      _ = second := takeWhile_append_of_startsOutside within beyond
  constructor
  · exact equal
  · rw [equal] at same
    exact List.append_cancel_left same

/-- Two texts in front of a mark are told apart if they have equally many marks themselves. -/
theorem append_mark_inj_of_count {mark : Char} {first second rest more : List Char}
    (counted : first.count mark = second.count mark)
    (same : first ++ mark :: rest = second ++ mark :: more) : first = second ∧ rest = more := by
  induction first generalizing second with
  | nil =>
      cases second with
      | nil => exact ⟨rfl, (List.cons.inj same).2⟩
      | cons c others =>
          obtain ⟨rfl, -⟩ := List.cons.inj same
          simp at counted
  | cons c others ih =>
      cases second with
      | nil =>
          obtain ⟨rfl, -⟩ := List.cons.inj same
          simp at counted
      | cons d further =>
          obtain ⟨rfl, tails⟩ := List.cons.inj same
          have fewer : others.count mark = further.count mark := by
            simpa [List.count_cons] using counted
          obtain ⟨equal, behind⟩ := ih fewer tails
          exact ⟨congrArg (List.cons c) equal, behind⟩

end Boundary

section Small

/-- A word of lower-case letters and digits that starts with a letter. -/
def SmallWord (name : String) : Prop :=
  ∃ first rest, name.toList = first :: rest ∧ first.isLower = true ∧
    ∀ c ∈ rest, isCompact c = true

instance (name : String) : Decidable (SmallWord name) :=
  match spelled : name.toList with
  | [] => isFalse fun ⟨first, rest, cons, _⟩ => by rw [spelled] at cons; cases cons
  | first :: rest =>
    decidable_of_iff (first.isLower = true ∧ rest.all isCompact = true) (by
      rw [List.all_eq_true]
      constructor
      · rintro ⟨lower, others⟩
        exact ⟨first, rest, spelled, lower, others⟩
      · rintro ⟨own, others, cons, lower, inside⟩
        obtain ⟨rfl, rfl⟩ := List.cons.inj (spelled.symm.trans cons)
        exact ⟨lower, inside⟩)

variable {name other : String}

theorem isCompact_iff {c : Char} : isCompact c = true ↔ c.isLower ∨ c.isDigit := by
  rw [isCompact, Bool.or_eq_true]

theorem isPlain_of_isCompact {c : Char} (compact : isCompact c = true) : isPlain c = true :=
  isPlain_of_lower_or_digit (isCompact_iff.mp compact)

theorem SmallWord.compact (small : SmallWord name) : ∀ c ∈ name.toList, isCompact c = true := by
  obtain ⟨first, rest, spelled, lower, others⟩ := small
  rw [spelled, List.forall_mem_cons]
  constructor
  · exact isCompact_iff.mpr (Or.inl lower)
  · exact others

/-- What holds of the ASCII characters one by one holds of all of them. -/
theorem forall_ascii {holds : Char → Prop} (each : ∀ n, n < 0x80 → holds (Char.ofNat n)) :
    ∀ c : Char, c.toNat < 0x80 → holds c := by
  intro c ascii
  have own := each c.toNat ascii
  rwa [Char.ofNat_toNat] at own

theorem lowerChar_of_ascii :
    ∀ c : Char, c.toNat < 0x80 → Text.lowerChar c = [c.toLower] :=
  forall_ascii (by decide +kernel)

/-- The upper-case form of a small letter is the capital letter. -/
theorem upperChar_of_isLower {c : Char} (lower : c.isLower = true) :
    Text.upperChar c = [c.toUpper] ∧ c.toUpper.isUpper = true ∧ c.toUpper.toLower = c := by
  have all : ∀ c : Char, c.toNat < 0x80 → c.isLower = true →
      Text.upperChar c = [c.toUpper] ∧ c.toUpper.isUpper = true ∧ c.toUpper.toLower = c :=
    forall_ascii (by decide +kernel)
  have bounds := isLower_iff.mp lower
  exact all c (by omega) lower

/-- The capital form of a small word is a capital and small characters after it. -/
theorem SmallWord.upperFirst (small : SmallWord name) :
    ∃ first rest, name.toList = first :: rest ∧
      Text.upperFirst name.toList = first.toUpper :: rest ∧ first.toUpper.isUpper = true ∧
      first.toUpper.toLower = first ∧ ∀ c ∈ rest, isCompact c = true := by
  obtain ⟨first, rest, spelled, lower, others⟩ := small
  obtain ⟨upper, capital, back⟩ := upperChar_of_isLower lower
  refine ⟨first, rest, spelled, ?_, capital, back, others⟩
  rw [spelled, Text.upperFirst, upper]
  rfl

theorem SmallWord.startsOutside_upperFirst (small : SmallWord name) (rest : List Char) :
    StartsOutside isCompact (Text.upperFirst name.toList ++ rest) := by
  obtain ⟨first, others, -, capital, upper, -, -⟩ := small.upperFirst
  rw [capital]
  intro c here
  cases here
  rw [Bool.eq_false_iff, ne_eq, isCompact_iff, isLower_iff, isDigit_iff]
  have bounds := isUpper_iff.mp upper
  omega

theorem SmallWord.plain_upperFirst (small : SmallWord name) :
    ∀ c ∈ Text.upperFirst name.toList, isPlain c = true := by
  obtain ⟨first, rest, -, capital, upper, -, others⟩ := small.upperFirst
  rw [capital, List.forall_mem_cons]
  constructor
  · exact isPlain_iff.mpr (Or.inl (Or.inl upper))
  · exact fun c mem => isPlain_of_isCompact (others c mem)

variable {rest more : List Char}

/-- Small words in front of something else are told apart. -/
theorem SmallWord.append_inj (small : SmallWord name) (little : SmallWord other)
    (outside : StartsOutside isCompact rest) (beyond : StartsOutside isCompact more)
    (same : name.toList ++ rest = other.toList ++ more) : name = other ∧ rest = more := by
  have parts := append_inj_of_startsOutside small.compact little.compact outside beyond same
  exact ⟨String.toList_injective parts.1, parts.2⟩

/-- Their capital forms are told apart as well. -/
theorem SmallWord.upperFirst_append_inj (small : SmallWord name) (little : SmallWord other)
    (outside : StartsOutside isCompact rest) (beyond : StartsOutside isCompact more)
    (same : Text.upperFirst name.toList ++ rest = Text.upperFirst other.toList ++ more) :
    name = other ∧ rest = more := by
  obtain ⟨first, others, spelled, capital, -, back, inside⟩ := small.upperFirst
  obtain ⟨second, further, written, upper, -, again, within⟩ := little.upperFirst
  rw [capital, upper, List.cons_append, List.cons_append, List.cons.injEq] at same
  have tails := append_inj_of_startsOutside inside within outside beyond same.2
  constructor
  · apply String.toList_injective
    rw [spelled, written, ← back, ← again, same.1, tails.1]
  · exact tails.2

end Small

section Camel

/-- The capital forms of the words of a name, one after the other. -/
def pascal (name : String) : List Char :=
  (words separatesWords name.toList).flatMap Text.upperFirst

theorem separatesWords_of_isPlain {c : Char} (plain : isPlain c = true) :
    separatesWords c = false := by
  have all : ∀ c : Char, c.toNat < 0x80 → isPlain c = true → separatesWords c = false :=
    forall_ascii (by decide +kernel)
  have bounds := isPlain_iff.mp plain
  rw [isUpper_iff, isLower_iff, isDigit_iff] at bounds
  exact all c (by omega) plain

/-- A small word is one word. -/
theorem pascal_of_smallWord {word : String} (small : SmallWord word) :
    pascal word = Text.upperFirst word.toList := by
  have nonempty : word.toList ≠ [] := by
    obtain ⟨first, rest, spelled, -⟩ := small
    rw [spelled]
    exact List.cons_ne_nil first rest
  rw [pascal, words_of_no_separator nonempty fun c mem =>
    separatesWords_of_isPlain (isPlain_of_isCompact (small.compact c mem))]
  exact List.flatMap_singleton ..

/-- Around a hyphen the words of two names follow one another. -/
theorem words_append_hyphen (first second : String) :
    words separatesWords (first ++ "-" ++ second).toList =
      words separatesWords first.toList ++ words separatesWords second.toList := by
  rw [String.toList_append, String.toList_append, List.append_assoc]
  exact words_append_of_separates (by decide) first.toList second.toList

theorem pascal_append_hyphen (first second : String) :
    pascal (first ++ "-" ++ second) = pascal first ++ pascal second := by
  rw [pascal, words_append_hyphen, List.flatMap_append]
  rfl

/-- A name that starts with a word stands in camel form as this word and the capital forms of
the words after it. -/
theorem toList_camel_append_hyphen {word : String}
    (unbroken : words separatesWords word.toList = [word.toList]) (name : String) :
    (camel (word ++ "-" ++ name)).toList = Text.lowerFirst word.toList ++ pascal name := by
  rw [camel, String.toList_ofList, words_append_hyphen, unbroken]
  rfl

end Camel

end DesignTokens.Key
