import DesignTokens.Proofs.Text.Marks
import DesignTokens.Text.Hex

/-!
# Strings of style sheets

A string ends at the first quote that no backslash stands in front of, and an unescaped end of a
line breaks it. A text stands for itself between quotes exactly if it has no quote, no backslash,
no null character, no end of a line and, in Sass, no opening of an interpolation.
-/

namespace DesignTokens.Css

/-- The languages of style sheets. A hash in front of a brace opens an interpolation in Sass, also
within a string. -/
inductive Dialect where
  | css
  | sass
  deriving DecidableEq, Repr

/-- The characters that end a line. -/
def isNewline (c : Char) : Bool :=
  c == '\n' || c == '\r' || c == '\x0c'

def isSpace (c : Char) : Bool :=
  c == ' ' || c == '\t' || isNewline c

/-- A character as it is read: the null character is replaced. -/
def visible (c : Char) : Char :=
  if c = '\x00' then '\uFFFD' else c

/-- The character that the digits of an escape give. -/
def escapedChar (digits : List Char) : Char :=
  match Text.hexNumber? digits with
  | some n => if n.isValidChar then visible (Char.ofNat n) else '\uFFFD'
  | none => '\uFFFD'

/-- The number of characters of the white space that ends the digits of an escape. -/
def separatorLength : List Char → Nat
  | '\r' :: '\n' :: _ => 2
  | c :: _ => if isSpace c then 1 else 0
  | [] => 0

/-- The digits of the escape that a text starts with. -/
def escapeDigits (text : List Char) : List Char :=
  (text.takeWhile Text.isHexDigit).take 6

/-- What the text behind a backslash stands for, and the number of characters that it takes: the
end of a line stands for nothing, up to six digits for a character, and any other character for
itself. -/
def escape : List Char → List Char × Nat
  | [] => ([], 0)
  | '\r' :: '\n' :: _ => ([], 2)
  | c :: rest =>
    let digits := escapeDigits (c :: rest)
    if isNewline c then ([], 1)
    else if digits = [] then ([visible c], 1)
    else ([escapedChar digits],
      digits.length + separatorLength ((c :: rest).drop digits.length))

/-- Whether a character and the text behind it open an interpolation. -/
def Interpolates (dialect : Dialect) (c : Char) (rest : List Char) : Prop :=
  dialect = .sass ∧ c = '#' ∧ rest.head? = some '\x7b'

instance (dialect : Dialect) (c : Char) (rest : List Char) :
    Decidable (Interpolates dialect c rest) :=
  inferInstanceAs (Decidable (_ ∧ _ ∧ _))

/-- The string that a text starts with behind the opening quote, and the rest behind the closing
one. The number counts the characters of an escape that are still to be passed over. -/
def readString (dialect : Dialect) : Nat → List Char → Option (List Char × List Char)
  | _, [] => none
  | skip + 1, _ :: rest => readString dialect skip rest
  | 0, c :: rest =>
    if c = '\'' then some ([], rest)
    else if isNewline c ∨ Interpolates dialect c rest then none
    else if c = '\\' then
      (readString dialect (escape rest).2 rest).map fun found =>
        ((escape rest).1 ++ found.1, found.2)
    else (readString dialect 0 rest).map fun found => (visible c :: found.1, found.2)

variable {dialect : Dialect} {c : Char} {text body tail value rest : List Char}

/-- The characters that can stand for themselves in a string. -/
def isLiteral (c : Char) : Bool :=
  c != '\'' && c != '\\' && c != '\x00' && !isNewline c

/-- A text that stands for itself between the quotes of a string. -/
structure Literal (dialect : Dialect) (text : List Char) : Prop where
  each : ∀ c ∈ text, isLiteral c = true
  closed : dialect = .sass → ¬['#', '\x7b'] <:+: text

theorem literal_nil : Literal dialect [] := by
  constructor
  · exact List.forall_mem_nil _
  · intro _ opened
    rw [List.infix_nil] at opened
    cases opened

theorem literal_cons_iff :
    Literal dialect (c :: text) ↔
      isLiteral c = true ∧ ¬Interpolates dialect c text ∧ Literal dialect text := by
  constructor
  · rintro ⟨each, closed⟩
    rw [List.forall_mem_cons] at each
    refine ⟨each.1, ?_, each.2, ?_⟩
    · rintro ⟨sass, here⟩
      exact closed sass (Text.mark_infix_cons_iff.mpr (Or.inl here))
    · exact fun sass inside => closed sass (Text.mark_infix_cons_iff.mpr (Or.inr inside))
  · rintro ⟨own, outside, each, closed⟩
    refine ⟨List.forall_mem_cons.mpr ⟨own, each⟩, fun sass opened => ?_⟩
    rcases Text.mark_infix_cons_iff.mp opened with here | inside
    · exact outside ⟨sass, here⟩
    · exact closed sass inside

theorem readString_of_other (quote : c ≠ '\'') (backslash : c ≠ '\\')
    (whole : ¬(isNewline c ∨ Interpolates dialect c rest)) :
    readString dialect 0 (c :: rest) =
      (readString dialect 0 rest).map fun found => (visible c :: found.1, found.2) := by
  rw [readString, if_neg quote, if_neg whole, if_neg backslash]

/-- A string that is read ends at its first character, or goes on behind an escape or behind a
character that breaks no string. -/
theorem cases_of_readString (h : readString dialect 0 (c :: text) = some (value, rest)) :
    (c = '\'' ∧ value = [] ∧ rest = text) ∨
    (c = '\\' ∧ ∃ inner, readString dialect (escape text).2 text = some (inner, rest) ∧
      value = (escape text).1 ++ inner) ∨
    (c ≠ '\'' ∧ c ≠ '\\' ∧ ¬(isNewline c ∨ Interpolates dialect c text) ∧
      ∃ inner, readString dialect 0 text = some (inner, rest) ∧ value = visible c :: inner) := by
  rw [readString] at h
  split at h
  case isTrue quote =>
      cases h
      exact Or.inl ⟨quote, rfl, rfl⟩
  case isFalse quote =>
      obtain ⟨whole, h⟩ := Option.ite_none_left_eq_some.mp h
      split at h
      case isTrue backslash =>
          obtain ⟨⟨inner, _⟩, found, same⟩ := Option.map_eq_some_iff.mp h
          cases same
          exact Or.inr (Or.inl ⟨backslash, inner, found, rfl⟩)
      case isFalse backslash =>
          obtain ⟨⟨inner, _⟩, found, same⟩ := Option.map_eq_some_iff.mp h
          cases same
          exact Or.inr (Or.inr ⟨quote, backslash, whole, inner, found, rfl⟩)

theorem quote_notMem_take_separatorLength (text : List Char) :
    '\'' ∉ text.take (separatorLength text) := by
  unfold separatorLength
  split
  case h_1 => simp
  case h_2 c more _ =>
      split
      case isTrue space =>
          rw [List.take_succ_cons, List.take_zero, List.mem_singleton]
          rintro rfl
          exact absurd space (by decide)
      case isFalse => exact List.not_mem_nil
  case h_3 => exact List.not_mem_nil

theorem take_length_escapeDigits (text : List Char) :
    text.take (escapeDigits text).length = escapeDigits text := by
  have front : escapeDigits text <+: text :=
    (List.take_prefix 6 _).trans (List.takeWhile_prefix _)
  exact (List.prefix_iff_eq_take.mp front).symm

theorem quote_notMem_escapeDigits (text : List Char) : '\'' ∉ escapeDigits text := by
  intro mem
  have hex := List.all_eq_true.mp List.all_takeWhile '\'' (List.mem_of_mem_take mem)
  exact absurd hex (by decide)

/-- An escape stands for one character at most and takes at least one, and no quote but one that
follows the backslash at once. -/
theorem quote_notMem_escape (c : Char) (rest : List Char) :
    (escape (c :: rest)).1.length ≤ 1 ∧ 1 ≤ (escape (c :: rest)).2 ∧
      '\'' ∉ rest.take ((escape (c :: rest)).2 - 1) := by
  unfold escape
  split
  case h_1 same => cases same
  case h_2 same =>
      cases same
      simp
  case h_3 same =>
      cases same
      simp only
      split
      case isTrue => simp
      case isFalse =>
          split
          case isTrue => simp
          case isFalse some_digit =>
              obtain ⟨more, count⟩ : ∃ more, (escapeDigits (c :: rest)).length = more + 1 :=
                Nat.exists_eq_succ_of_ne_zero (by simpa using some_digit)
              have digits := quote_notMem_escapeDigits (c :: rest)
              rw [← take_length_escapeDigits] at digits
              have behind := quote_notMem_take_separatorLength
                ((c :: rest).drop (escapeDigits (c :: rest)).length)
              refine ⟨Nat.le_refl 1, by omega, fun mem => ?_⟩
              have taken : '\'' ∈ (c :: rest).take ((escapeDigits (c :: rest)).length +
                  separatorLength ((c :: rest).drop (escapeDigits (c :: rest)).length)) := by
                rw [count, Nat.add_right_comm, List.take_succ_cons]
                rw [count, Nat.add_right_comm, Nat.add_sub_cancel] at mem
                exact List.mem_cons_of_mem c mem
              rw [List.take_add, List.mem_append] at taken
              exact taken.elim digits behind

/-- An escape within a string stays within it. -/
theorem escape_within (nonempty : body ≠ []) :
    (escape (body ++ '\'' :: tail)).1.length ≤ 1 ∧ 1 ≤ (escape (body ++ '\'' :: tail)).2 ∧
      (escape (body ++ '\'' :: tail)).2 ≤ body.length := by
  obtain ⟨c, more, rfl⟩ := List.exists_cons_of_ne_nil nonempty
  obtain ⟨short, some_taken, quiet⟩ := quote_notMem_escape c (more ++ '\'' :: tail)
  refine ⟨short, some_taken, ?_⟩
  by_contra beyond
  apply quiet
  obtain ⟨extra, taken⟩ : ∃ extra, (escape (c :: more ++ '\'' :: tail)).2 - 1 =
      more.length + (extra + 1) := by
    rw [List.length_cons] at beyond
    exact ⟨(escape (c :: more ++ '\'' :: tail)).2 - more.length - 2, by omega⟩
  rw [← List.cons_append, taken, List.take_length_add_append, List.take_succ_cons]
  simp

theorem interpolates_append_quote {more : List Char} :
    Interpolates dialect c (more ++ '\'' :: tail) ↔ Interpolates dialect c more := by
  cases more <;> simp [Interpolates]

/-- An escape takes more than it stands for, so with the backslash in front it adds to what is read
less than its length. -/
theorem length_le_of_escape (blocked : readString dialect 0 tail = none)
    (bound : ∀ skip ≤ body.length, ∀ inner,
      readString dialect skip (body ++ '\'' :: tail) = some (inner, rest) →
        inner.length + skip ≤ body.length)
    (h : readString dialect (escape (body ++ '\'' :: tail)).2 (body ++ '\'' :: tail) =
      some (value, rest)) :
    ((escape (body ++ '\'' :: tail)).1 ++ value).length ≤ body.length := by
  by_cases last : body = []
  · subst last
    -- The escape takes the closing quote.
    exact absurd (blocked.symm.trans h) nofun
  · obtain ⟨short, some_taken, inside⟩ := @escape_within body tail last
    have shorter := bound _ inside value h
    rw [List.length_append]
    omega

/-- What is read before the closing quote of a text is no longer than the text, if the string
cannot end behind it. -/
theorem length_le_of_readString (blocked : readString dialect 0 tail = none) {skip : Nat}
    (within : skip ≤ body.length)
    (h : readString dialect skip (body ++ '\'' :: tail) = some (value, rest)) :
    value.length + skip ≤ body.length := by
  induction body generalizing skip value with
  | nil =>
      obtain rfl : skip = 0 := Nat.le_zero.mp within
      cases h
      exact Nat.le_refl 0
  | cons c more ih =>
      rw [List.length_cons] at within ⊢
      cases skip with
      | succ skip =>
          have shorter := ih (Nat.le_of_succ_le_succ within) h
          omega
      | zero =>
          rw [List.cons_append] at h
          rcases cases_of_readString h with
            ⟨-, rfl, -⟩ | ⟨-, inner, found, rfl⟩ | ⟨-, -, -, inner, found, rfl⟩
          · exact Nat.zero_le _
          · have shorter := length_le_of_escape blocked (fun _ within _ => ih within) found
            omega
          · have shorter := ih (Nat.zero_le _) found
            rw [List.length_cons]
            omega

/-- A text that stands for itself is read back. -/
theorem readString_of_literal (literal : Literal dialect body) (tail : List Char) :
    readString dialect 0 (body ++ '\'' :: tail) = some (body, tail) := by
  induction body with
  | nil => rfl
  | cons c more ih =>
      obtain ⟨own, closed, others⟩ := literal_cons_iff.mp literal
      simp only [isLiteral, Bool.and_eq_true, bne_iff_ne, Bool.not_eq_true'] at own
      obtain ⟨⟨⟨quote, backslash⟩, null⟩, newline⟩ := own
      have whole : ¬(isNewline c = true ∨ Interpolates dialect c (more ++ '\'' :: tail)) := by
        rw [interpolates_append_quote, newline]
        simpa using closed
      rw [List.cons_append, readString_of_other quote backslash whole, ih others, visible,
        if_neg null]
      rfl

/-- A text that is read back between quotes stands for itself, if the string cannot end behind
it. -/
theorem literal_of_readString (blocked : readString dialect 0 tail = none)
    (h : readString dialect 0 (body ++ '\'' :: tail) = some (body, rest)) :
    Literal dialect body := by
  induction body with
  | nil => exact literal_nil
  | cons c more ih =>
      rw [List.cons_append] at h
      rcases cases_of_readString h with
        ⟨-, vacant, -⟩ | ⟨-, inner, found, same⟩ | ⟨quote, backslash, whole, inner, found, same⟩
      · cases vacant
      · have shorter := length_le_of_escape blocked
          (fun _ within _ => length_le_of_readString blocked within) found
        rw [← same] at shorter
        exact absurd shorter (Nat.not_succ_le_self more.length)
      · obtain ⟨kept, rfl⟩ := List.cons.inj same
        rw [not_or, interpolates_append_quote] at whole
        have null : c ≠ '\x00' := by
          rintro rfl
          exact absurd kept (by decide)
        have own : isLiteral c = true := by simp [isLiteral, quote, backslash, null, whole.1]
        exact literal_cons_iff.mpr ⟨own, whole.2, ih found⟩

end DesignTokens.Css
