import DesignTokens.Key.Camel
import DesignTokens.Proofs.Key.Families
import DesignTokens.Proofs.Text.CaseImages

/-!
# Camel forms

The camel form of a name is one word without separators, and it is empty only where the name has
nothing but separators. Its first character is in lower case already, so it is its own camel form.
-/

namespace DesignTokens.Key

section Separators

/-- The separators of words as ranges of code points. -/
def separatorRanges : List (Nat × Nat) :=
  (0x2D, 0x2D) :: (0x5F, 0x5F) :: (0x1C, 0x1F) :: Text.paddingRanges

theorem separatesWords_eq (c : Char) :
    separatesWords c = Text.inRanges separatorRanges c := by
  have single : ∀ d : Char,
      (decide (d.toNat ≤ c.toNat) && decide (c.toNat ≤ d.toNat)) = (c == d) := by
    intro d
    rw [Bool.eq_iff_iff, Bool.and_eq_true, decide_eq_true_iff, decide_eq_true_iff, beq_iff_eq,
      ← Char.toNat_inj]
    omega
  calc
    separatesWords c = ((c == '-') || ((c == '_') || Text.isBlank c)) := by
      rw [separatesWords, Bool.or_assoc, Bool.or_comm, Bool.or_comm (c == '_'), Bool.or_assoc]
    _ = Text.inRanges separatorRanges c := by
      rw [← single '-', ← single '_']
      rfl

set_option maxRecDepth 4000 in
/-- No separator stands in the lower-case form of a character of a word. -/
theorem separatesWords_of_mem_lowerChar {c d : Char} (own : separatesWords c = false)
    (mem : d ∈ Text.lowerChar c) : separatesWords d = false := by
  rw [separatesWords_eq] at own ⊢
  exact Text.inRanges_of_mem_mapCase Text.isValid_of_mem_lowerRuns (by decide) (by decide)
    own mem

set_option maxRecDepth 4000 in
/-- No separator stands in the upper-case form of a character of a word. -/
theorem separatesWords_of_mem_upperChar {c d : Char} (own : separatesWords c = false)
    (mem : d ∈ Text.upperChar c) : separatesWords d = false := by
  rw [separatesWords_eq] at own ⊢
  exact Text.inRanges_of_mem_mapCase Text.isValid_of_mem_upperRuns (by decide) (by decide)
    own mem

end Separators

section Forms

variable {word : List Char}

theorem separatesWords_of_mem_lowerFirst (inside : ∀ c ∈ word, separatesWords c = false) :
    ∀ d ∈ Text.lowerFirst word, separatesWords d = false := by
  cases word with
  | nil => exact inside
  | cons c rest =>
      intro d mem
      rcases List.mem_append.mp mem with mem | mem
      · exact separatesWords_of_mem_lowerChar (inside c List.mem_cons_self) mem
      · exact inside d (List.mem_cons_of_mem c mem)

theorem separatesWords_of_mem_upperFirst (inside : ∀ c ∈ word, separatesWords c = false) :
    ∀ d ∈ Text.upperFirst word, separatesWords d = false := by
  cases word with
  | nil => exact inside
  | cons c rest =>
      intro d mem
      rcases List.mem_append.mp mem with mem | mem
      · exact separatesWords_of_mem_upperChar (inside c List.mem_cons_self) mem
      · exact inside d (List.mem_cons_of_mem c mem)

theorem toList_camel (name : String) :
    (camel name).toList = camelOf (words separatesWords name.toList) :=
  String.toList_ofList

/-- No separator is left in a camel form. -/
theorem separatesWords_of_mem_camel (name : String) :
    ∀ c ∈ (camel name).toList, separatesWords c = false := by
  rw [toList_camel]
  have each : ∀ word ∈ words separatesWords name.toList,
      word ≠ [] ∧ ∀ c ∈ word, separatesWords c = false := words_spec name.toList
  cases found : words separatesWords name.toList with
  | nil => exact List.forall_mem_nil _
  | cons first others =>
      rw [found] at each
      intro c mem
      rcases List.mem_append.mp mem with mem | mem
      · exact separatesWords_of_mem_lowerFirst (each first List.mem_cons_self).2 c mem
      · obtain ⟨word, listed, mem⟩ := List.mem_flatMap.mp mem
        exact separatesWords_of_mem_upperFirst (each word (List.mem_cons_of_mem _ listed)).2 c mem

theorem words_eq_nil_iff {separates : Char → Bool} {text : List Char} :
    words separates text = [] ↔ ∀ c ∈ text, separates c = true := by
  have held : (words separates text).flatten = text.filter fun c => !separates c :=
    flatten_words text
  constructor
  · intro none
    rw [none, List.flatten_nil, eq_comm, List.filter_eq_nil_iff] at held
    intro c mem
    simpa using held c mem
  · intro all
    have outside : (words separates text).flatten = [] := by
      rw [held, List.filter_eq_nil_iff]
      intro c mem
      simp [all c mem]
    rw [List.flatten_eq_nil_iff] at outside
    apply List.eq_nil_iff_forall_not_mem.mpr
    intro word mem
    exact (words_spec text word mem).1 (outside word mem)

/-- The camel form of a name with a word is a character's lower-case form and more. -/
theorem exists_toList_camel {name : String} (named : words separatesWords name.toList ≠ []) :
    ∃ c rest, (camel name).toList = Text.lowerChar c ++ rest := by
  obtain ⟨first, others, found⟩ := List.exists_cons_of_ne_nil named
  have nonempty := (words_spec name.toList first (found ▸ List.mem_cons_self)).1
  obtain ⟨c, more, rfl⟩ := List.exists_cons_of_ne_nil nonempty
  refine ⟨c, more ++ others.flatMap Text.upperFirst, ?_⟩
  rw [toList_camel, found, camelOf, Text.lowerFirst, List.append_assoc]

theorem camel_eq_empty_iff (name : String) :
    camel name = "" ↔ ∀ c ∈ name.toList, separatesWords c = true := by
  rw [← words_eq_nil_iff]
  constructor
  · intro empty
    by_contra named
    obtain ⟨c, rest, form⟩ := exists_toList_camel named
    rw [empty, eq_comm] at form
    exact Text.lowerChar_ne_nil c (List.append_eq_nil_iff.mp form).1
  · intro none
    rw [camel, none]
    rfl

/-- A camel form is its own camel form. -/
theorem camel_camel (name : String) : camel (camel name) = camel name := by
  by_cases named : words separatesWords name.toList = []
  · have empty : camel name = "" := (camel_eq_empty_iff name).mpr (words_eq_nil_iff.mp named)
    rw [empty]
    rfl
  · obtain ⟨c, rest, form⟩ := exists_toList_camel named
    have nonempty : (camel name).toList ≠ [] := by
      rw [form]
      exact fun empty => Text.lowerChar_ne_nil c (List.append_eq_nil_iff.mp empty).1
    have single : words separatesWords (camel name).toList = [(camel name).toList] :=
      words_of_no_separator nonempty (separatesWords_of_mem_camel name)
    rw [← String.toList_inj, toList_camel, single, camelOf, List.flatMap_nil, List.append_nil, form,
      Text.lowerFirst_lowerChar_append]

/-- A camel form has no white space, low line or hyphen, is empty exactly if the name has nothing
else, and is its own camel form. -/
theorem camel_settles (name : String) :
    (∀ c ∈ (camel name).toList, Text.isBlank c = false ∧ c ≠ '_' ∧ c ≠ '-') ∧
    (camel name = "" ↔ ∀ c ∈ name.toList, Text.isBlank c = true ∨ c = '_' ∨ c = '-') ∧
    camel (camel name) = camel name := by
  have separator : ∀ c : Char,
      separatesWords c = true ↔ Text.isBlank c = true ∨ c = '_' ∨ c = '-' := by
    intro c
    simp [separatesWords, or_assoc]
  refine ⟨fun c mem => ?_, ?_, camel_camel name⟩
  · have inside := separatesWords_of_mem_camel name c mem
    simpa [separatesWords, and_assoc] using inside
  · rw [camel_eq_empty_iff]
    simp only [separator]

/-- Forms of several characters: the sharp s of the second word, and the dotted capital of the
first. -/
example : camel "-\u0130 \u00DFtra" = "i\u0307SStra" := by decide +kernel

end Forms

end DesignTokens.Key
