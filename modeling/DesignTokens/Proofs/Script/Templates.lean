import DesignTokens.Proofs.Text.Marks
import DesignTokens.Text.Hex

/-!
# Template literals are read back

A template literal stands for the characters between its marks. It ends at the first mark that no
backslash stands in front of, and a dollar sign in front of a brace opens a substitution. A text
stands for itself in a template exactly if it has none of these and no carriage return, which is
read as a line feed.

## Implementation notes

The reader refuses a substitution and every escape that gives no character on its own. Where it
refuses a template, a script reads something else than the text of the template.
-/

namespace DesignTokens.Script

/-- The mark around a template. -/
def templateMark : Char := '\x60'

/-- The character that some digits of an escape give. -/
def escapedChar? (digits : List Char) : Option Char :=
  (Text.hexNumber? digits).bind fun n => if n.isValidChar then some (Char.ofNat n) else none

/-- An escape of so many digits. -/
def digitsEscape? (count : Nat) (text : List Char) : Option (List Char × Nat) :=
  if text.length < count then none
  else (escapedChar? (text.take count)).map fun c => ([c], count + 1)

/-- The characters behind a backslash that stand for another one. -/
def namedEscapes : List (Char × Char) :=
  [('n', '\n'), ('t', '\t'), ('b', '\x08'), ('v', '\x0b'), ('f', '\x0c'), ('r', '\r')]

/-- The characters that the text behind a backslash stands for, and the number of characters that
it takes. The end of a line stands for nothing. -/
def templateEscape? : List Char → Option (List Char × Nat)
  | [] => none
  | '\r' :: '\n' :: _ => some ([], 2)
  | 'x' :: rest => digitsEscape? 2 rest
  | 'u' :: '\x7b' :: rest =>
    let digits := rest.takeWhile Text.isHexDigit
    if digits = [] ∨ (rest.drop digits.length).head? ≠ some '\x7d' then none
    else (escapedChar? digits).map fun c => ([c], digits.length + 3)
  | 'u' :: rest => digitsEscape? 4 rest
  | c :: rest =>
    if ['\n', '\r', '\u2028', '\u2029'].contains c then some ([], 1)
    else if c = '0' ∧ (rest.head?.map Char.isDigit).getD false = false then some (['\x00'], 1)
    else if c.isDigit then none
    else some ([(namedEscapes.lookup c).getD c], 1)

/-- The text that a template stands for behind its opening mark, and the rest behind the closing
one. The number counts the characters of an escape that are still to be passed over. -/
def readTemplate : Nat → List Char → Option (List Char × List Char)
  | _, [] => none
  | skip + 1, _ :: rest => readTemplate skip rest
  | 0, c :: rest =>
    if c = templateMark then some ([], rest)
    else if c = '$' ∧ rest.head? = some '\x7b' then none
    else if c = '\\' then
      (templateEscape? rest).bind fun escape =>
        (readTemplate escape.2 rest).map fun found => (escape.1 ++ found.1, found.2)
    else if c = '\r' then
      (readTemplate (if rest.head? = some '\n' then 1 else 0) rest).map fun found =>
        ('\n' :: found.1, found.2)
    else (readTemplate 0 rest).map fun found => (c :: found.1, found.2)

/-- The text of the template that is tagged as a style, and the rest behind it. -/
def readStyleTemplate? : List Char → Option (List Char × List Char)
  | 'c' :: 's' :: 's' :: '\x60' :: inside => readTemplate 0 inside
  | _ => none

/-- A text that stands for itself in a template. -/
structure TemplateLiteral (text : List Char) : Prop where
  mark : templateMark ∉ text
  backslash : '\\' ∉ text
  carriage : '\r' ∉ text
  closed : ¬['$', '\x7b'] <:+: text

variable {c : Char} {text body value rest : List Char}

theorem templateLiteral_nil : TemplateLiteral [] := by
  refine ⟨List.not_mem_nil, List.not_mem_nil, List.not_mem_nil, fun opened => ?_⟩
  rw [List.infix_nil] at opened
  cases opened

theorem templateLiteral_cons_iff :
    TemplateLiteral (c :: text) ↔ c ≠ templateMark ∧ c ≠ '\\' ∧ c ≠ '\r' ∧
      ¬(c = '$' ∧ text.head? = some '\x7b') ∧ TemplateLiteral text := by
  constructor
  · rintro ⟨mark, backslash, carriage, closed⟩
    rw [List.mem_cons, not_or] at mark backslash carriage
    rw [Text.mark_infix_cons_iff, not_or] at closed
    exact ⟨Ne.symm mark.1, Ne.symm backslash.1, Ne.symm carriage.1, closed.1,
      mark.2, backslash.2, carriage.2, closed.2⟩
  · rintro ⟨mark, backslash, carriage, closed, inner⟩
    refine ⟨?_, ?_, ?_, ?_⟩
    · exact fun mem => (List.mem_cons.mp mem).elim (fun same => mark same.symm) inner.mark
    · exact fun mem => (List.mem_cons.mp mem).elim (fun same => backslash same.symm) inner.backslash
    · exact fun mem => (List.mem_cons.mp mem).elim (fun same => carriage same.symm) inner.carriage
    · rw [Text.mark_infix_cons_iff, not_or]
      exact ⟨closed, inner.closed⟩

/-- The characters that neither end a template nor open anything in it. -/
def isPlain (c : Char) : Bool :=
  !([templateMark, '\\', '\r', '$'].contains c)

theorem isPlain_iff : isPlain c = true ↔ c ∉ [templateMark, '\\', '\r', '$'] := by
  simp [isPlain]

theorem notMem_of_isPlain {mark : Char} (plain : ∀ c ∈ text, isPlain c = true)
    (special : isPlain mark = false) : mark ∉ text := by
  intro mem
  rw [plain mark mem] at special
  cases special

/-- Plain text around a text changes nothing. -/
theorem templateLiteral_between_iff {before after : List Char}
    (start : ∀ c ∈ before, isPlain c = true) (close : ∀ c ∈ after, isPlain c = true)
    (brace : after.head? ≠ some '\x7b') :
    TemplateLiteral (before ++ text ++ after) ↔ TemplateLiteral text := by
  have outside : ∀ mark, isPlain mark = false → (mark ∈ before ++ text ++ after ↔ mark ∈ text) := by
    intro mark special
    simp [notMem_of_isPlain start special, notMem_of_isPlain close special]
  have opened : ['$', '\x7b'] <:+: before ++ text ++ after ↔ ['$', '\x7b'] <:+: text :=
    Text.mark_infix_between_iff (notMem_of_isPlain start (by decide)) brace
      (Text.mark_not_infix_of_notMem (Or.inl (notMem_of_isPlain close (by decide))))
  constructor
  · rintro ⟨mark, backslash, carriage, closed⟩
    exact ⟨mt (outside _ (by decide)).mpr mark, mt (outside _ (by decide)).mpr backslash,
      mt (outside _ (by decide)).mpr carriage, mt opened.mpr closed⟩
  · rintro ⟨mark, backslash, carriage, closed⟩
    exact ⟨mt (outside _ (by decide)).mp mark, mt (outside _ (by decide)).mp backslash,
      mt (outside _ (by decide)).mp carriage, mt opened.mp closed⟩

theorem length_digitsEscape? {count : Nat} {escape : List Char × Nat}
    (h : digitsEscape? count text = some escape) : escape.1.length ≤ 1 ∧ 1 ≤ escape.2 := by
  obtain ⟨_, read⟩ := Option.ite_none_left_eq_some.mp h
  obtain ⟨c, _, rfl⟩ := Option.map_eq_some_iff.mp read
  exact ⟨Nat.le_refl 1, Nat.le_add_left 1 count⟩

/-- An escape stands for one character at most and takes at least one. -/
theorem length_templateEscape? {escape : List Char × Nat} (h : templateEscape? text = some escape) :
    escape.1.length ≤ 1 ∧ 1 ≤ escape.2 := by
  unfold templateEscape? at h
  split at h
  case h_1 => cases h
  case h_2 =>
      cases h
      exact ⟨Nat.zero_le 1, by decide⟩
  case h_3 => exact length_digitsEscape? h
  case h_4 =>
      obtain ⟨_, read⟩ := Option.ite_none_left_eq_some.mp h
      obtain ⟨c, _, rfl⟩ := Option.map_eq_some_iff.mp read
      exact ⟨Nat.le_refl 1, Nat.le_add_left 1 _⟩
  case h_5 => exact length_digitsEscape? h
  case h_6 =>
      split at h
      case isTrue =>
          cases h
          exact ⟨Nat.zero_le 1, Nat.le_refl 1⟩
      case isFalse =>
          split at h
          case isTrue =>
              cases h
              exact ⟨Nat.le_refl 1, Nat.le_refl 1⟩
          case isFalse =>
              obtain ⟨_, read⟩ := Option.ite_none_left_eq_some.mp h
              cases read
              exact ⟨Nat.le_refl 1, Nat.le_refl 1⟩

theorem readTemplate_of_other (mark : c ≠ templateMark) (backslash : c ≠ '\\')
    (carriage : c ≠ '\r') (closed : ¬(c = '$' ∧ rest.head? = some '\x7b')) :
    readTemplate 0 (c :: rest) =
      (readTemplate 0 rest).map fun found => (c :: found.1, found.2) := by
  rw [readTemplate, if_neg mark, if_neg closed, if_neg backslash, if_neg carriage]

/-- A template that is read ends at its first character, or goes on behind an escape, behind a
carriage return or behind a character that stands for itself. -/
theorem cases_of_readTemplate (h : readTemplate 0 (c :: text) = some (value, rest)) :
    (c = templateMark ∧ value = [] ∧ rest = text) ∨
    (c = '\\' ∧ ∃ escape inner, templateEscape? text = some escape ∧
      readTemplate escape.2 text = some (inner, rest) ∧ value = escape.1 ++ inner) ∨
    (c = '\r' ∧ ∃ skip inner, readTemplate skip text = some (inner, rest) ∧
      value = '\n' :: inner) ∨
    (c ≠ templateMark ∧ c ≠ '\\' ∧ c ≠ '\r' ∧ ¬(c = '$' ∧ text.head? = some '\x7b') ∧
      ∃ inner, readTemplate 0 text = some (inner, rest) ∧ value = c :: inner) := by
  rw [readTemplate] at h
  split at h
  case isTrue mark =>
      cases h
      exact Or.inl ⟨mark, rfl, rfl⟩
  case isFalse mark =>
      obtain ⟨closed, h⟩ := Option.ite_none_left_eq_some.mp h
      split at h
      case isTrue backslash =>
          obtain ⟨escape, escaped, h⟩ := Option.bind_eq_some_iff.mp h
          obtain ⟨⟨inner, _⟩, found, same⟩ := Option.map_eq_some_iff.mp h
          cases same
          exact Or.inr (Or.inl ⟨backslash, escape, inner, escaped, found, rfl⟩)
      case isFalse backslash =>
          split at h
          case isTrue carriage =>
              obtain ⟨⟨inner, _⟩, found, same⟩ := Option.map_eq_some_iff.mp h
              cases same
              exact Or.inr (Or.inr (Or.inl ⟨carriage, _, inner, found, rfl⟩))
          case isFalse carriage =>
              obtain ⟨⟨inner, _⟩, found, same⟩ := Option.map_eq_some_iff.mp h
              cases same
              exact Or.inr (Or.inr (Or.inr
                ⟨mark, backslash, carriage, closed, inner, found, rfl⟩))

/-- What a template stands for is no longer than its text. -/
theorem length_le_of_readTemplate {skip : Nat} (h : readTemplate skip text = some (value, rest)) :
    value.length + 1 + rest.length + skip ≤ text.length := by
  induction text generalizing skip value with
  | nil => cases skip <;> cases h
  | cons c more ih =>
      rw [List.length_cons]
      cases skip with
      | succ skip =>
          have shorter := ih h
          omega
      | zero =>
          rcases cases_of_readTemplate h with ⟨-, rfl, rfl⟩ |
            ⟨-, escape, inner, escaped, found, rfl⟩ | ⟨-, skip, inner, found, rfl⟩ |
            ⟨-, -, -, -, inner, found, rfl⟩
          · rw [List.length_nil]
            omega
          · have shorter := ih found
            have taken := length_templateEscape? escaped
            rw [List.length_append]
            omega
          · have shorter := ih found
            rw [List.length_cons]
            omega
          · have shorter := ih found
            rw [List.length_cons]
            omega

theorem head?_append_mark {more : List Char} :
    (more ++ templateMark :: rest).head? = some '\x7b' ↔ more.head? = some '\x7b' := by
  cases more <;> simp [templateMark]

/-- A text that stands for itself is read back. -/
theorem readTemplate_of_literal (literal : TemplateLiteral body) (rest : List Char) :
    readTemplate 0 (body ++ templateMark :: rest) = some (body, rest) := by
  induction body with
  | nil => rfl
  | cons c more ih =>
      obtain ⟨mark, backslash, carriage, closed, others⟩ := templateLiteral_cons_iff.mp literal
      rw [← @head?_append_mark rest] at closed
      rw [List.cons_append, readTemplate_of_other mark backslash carriage closed, ih others]
      rfl

/-- A text that is read back between the marks of a template stands for itself. -/
theorem literal_of_readTemplate
    (h : readTemplate 0 (body ++ templateMark :: rest) = some (body, rest)) :
    TemplateLiteral body := by
  induction body with
  | nil => exact templateLiteral_nil
  | cons c more ih =>
      rw [List.cons_append] at h
      rcases cases_of_readTemplate h with ⟨-, vacant, -⟩ |
        ⟨-, escape, inner, escaped, found, same⟩ | ⟨rfl, _, inner, _, same⟩ |
        ⟨mark, backslash, carriage, closed, inner, found, same⟩
      · cases vacant
      · -- An escape takes more than it stands for, and nothing behind it makes up for that.
        have shorter := length_le_of_readTemplate found
        have taken := length_templateEscape? escaped
        have long := congrArg List.length same
        simp only [List.length_cons, List.length_append] at shorter long
        omega
      · exact absurd (List.cons.inj same).1 (by decide)
      · obtain ⟨-, rfl⟩ := List.cons.inj same
        rw [head?_append_mark] at closed
        exact templateLiteral_cons_iff.mpr ⟨mark, backslash, carriage, closed, ih found⟩

/-- A text between the marks of a template is read back exactly if it stands for itself. -/
theorem readTemplate_eq_self_iff :
    readTemplate 0 (body ++ templateMark :: rest) = some (body, rest) ↔ TemplateLiteral body :=
  ⟨literal_of_readTemplate, fun literal => readTemplate_of_literal literal rest⟩

end DesignTokens.Script
