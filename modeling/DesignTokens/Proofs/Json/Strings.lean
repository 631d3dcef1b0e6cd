import DesignTokens.Json.Printer
import DesignTokens.Json.Reader

/-!
# Strings are read back

A string between quotes is read back character by character: each character is written either
as it stands or as an escape that stands for it. No character of a literal is a line feed, so a
literal stays on its line.
-/

namespace DesignTokens.Json

/-- A character in front of what is read behind it. -/
def consRead (c : Char) (read : Except Halt (List Char × List Char)) :
    Except Halt (List Char × List Char) :=
  read.map fun found => (c :: found.1, found.2)

variable {start rest : List Char} {c plain : Char}

theorem readChars_plain (quote : c ≠ '"') (solidus : c ≠ '\\') (printable : 0x20 ≤ c.toNat) :
    readChars start (c :: rest) = consRead c (readChars start rest) := by
  rw [readChars, if_neg (by omega)]
  · rfl
  all_goals simp_all

theorem readChars_escaped (stands : escaped? c = some plain) :
    readChars start ('\\' :: c :: rest) = consRead plain (readChars start rest) := by
  have other : c ≠ 'u' := by
    rintro rfl
    cases stands
  rw [readChars, stands]
  · rfl
  all_goals simp_all

theorem hexNumber?_hexDigits {unit : Nat} (small : unit < 0x10000) :
    Text.hexNumber? (Text.hexDigits 4 unit) = some unit := by
  have digit : ∀ value < 16, Text.hexValue? (Nat.digitChar value) = some value := by decide
  have own : ∀ value, Text.hexValue? (Text.hexDigit value) = some (value % 16) := fun value =>
    digit (value % 16) (Nat.mod_lt value (by decide))
  simp [Text.hexDigits, Text.hexNumber?, own]
  omega

section Escapes

variable {unit high low : Nat}

/-- The reader looks for the second half of a surrogate pair before it settles on an escape. It
needs a character after the escape, as the closing quote is. -/
theorem readChars_unitEscape (small : unit < 0x10000) (single : isHighSurrogate unit = false)
    (more : rest ≠ []) :
    readChars start (unitEscape unit ++ rest) =
      consRead (unitChar unit) (readChars start rest) := by
  have value := hexNumber?_hexDigits small
  simp only [Text.hexDigits, List.nil_append, List.cons_append] at value
  simp only [unitEscape, Text.hexDigits, List.nil_append, List.cons_append]
  rw [readChars.eq_def]
  simp only [value]
  split
  case h_1 absent => cases absent
  case h_2 => exact absurd rfl more
  case h_3 found =>
      obtain rfl := Option.some.inj found
      split <;> simp [single, consRead]
  case h_4 found _ _ =>
      obtain rfl := Option.some.inj found
      rfl

theorem readChars_pairEscape (first : isHighSurrogate high = true)
    (second : isLowSurrogate low = true) (more : rest ≠ []) :
    readChars start (unitEscape high ++ unitEscape low ++ rest) =
      consRead (pairChar high low) (readChars start rest) := by
  have bounds := first
  have limits := second
  simp only [isHighSurrogate, isLowSurrogate, Bool.and_eq_true, decide_eq_true_eq] at bounds limits
  have value := hexNumber?_hexDigits (show high < 0x10000 by omega)
  have other := hexNumber?_hexDigits (show low < 0x10000 by omega)
  simp only [Text.hexDigits, List.nil_append, List.cons_append] at value other
  have behind : rest.isEmpty = false := List.isEmpty_eq_false_iff.mpr more
  simp only [unitEscape, Text.hexDigits, List.nil_append, List.cons_append]
  rw [readChars.eq_def]
  simp only [value, other, first, second, behind, Bool.not_false, Bool.and_self, if_true]
  rfl

/-- Outside ASCII a character is one escape, or two that are a surrogate pair. -/
theorem readChars_unicodeEscape (c : Char) (more : rest ≠ []) :
    readChars start (unicodeEscape c ++ rest) = consRead c (readChars start rest) := by
  have valid : c.toNat < 0xD800 ∨ 0xDFFF < c.toNat ∧ c.toNat < 0x110000 := c.valid
  unfold unicodeEscape
  split
  case isTrue small =>
      have single : isHighSurrogate c.toNat = false := by
        simp only [isHighSurrogate, Bool.and_eq_false_iff, decide_eq_false_iff_not]
        omega
      have alone : unitChar c.toNat = c := by
        rw [unitChar, if_neg, Char.ofNat_toNat]
        simp only [isHighSurrogate, isLowSurrogate, Bool.or_eq_true, Bool.and_eq_true,
          decide_eq_true_eq]
        omega
      rw [readChars_unitEscape small single more, alone]
  case isFalse large =>
      have pair : pairChar (0xD800 + (c.toNat - 0x10000) / 0x400)
          (0xDC00 + (c.toNat - 0x10000) % 0x400) = c := by
        have value : 0x10000 + (0xD800 + (c.toNat - 0x10000) / 0x400 - 0xD800) * 0x400 +
            (0xDC00 + (c.toNat - 0x10000) % 0x400 - 0xDC00) = c.toNat := by omega
        rw [pairChar, value, Char.ofNat_toNat]
      rw [readChars_pairEscape _ _ more, pair]
      · simp only [isHighSurrogate, Bool.and_eq_true, decide_eq_true_eq]
        omega
      · simp only [isLowSurrogate, Bool.and_eq_true, decide_eq_true_eq]
        omega

end Escapes

/-- Whatever a character is written as, it is read back. -/
theorem readChars_literalChar (ascii : Bool) (c : Char) (more : rest ≠ []) :
    readChars start (literalChar ascii c ++ rest) = consRead c (readChars start rest) := by
  unfold literalChar
  split
  case h_8 quote solidus _ _ _ _ _ =>
      split
      case isTrue control =>
          have escape : unitEscape c.toNat = unicodeEscape c := by
            rw [unicodeEscape, if_pos (by omega)]
          rw [escape]
          exact readChars_unicodeEscape c more
      case isFalse printable =>
          split
          case isTrue => exact readChars_unicodeEscape c more
          case isFalse => exact readChars_plain quote solidus (by omega)
  all_goals exact readChars_escaped rfl

/-- The characters of a literal are read up to its closing quote. -/
theorem readChars_literal (ascii : Bool) (cs : List Char) :
    readChars start (cs.flatMap (literalChar ascii) ++ '"' :: rest) = .ok (cs, rest) := by
  induction cs with
  | nil => rw [List.flatMap_nil, List.nil_append, readChars]
  | cons c cs ih =>
      rw [List.flatMap_cons, List.append_assoc, readChars_literalChar ascii c (by simp), ih]
      rfl

/-- The characters that escapes are made of. -/
def escapeAlphabet : List Char :=
  ['\\', '"', 'n', 'r', 't', 'u', '0', '1', '2', '3', '4', '5', '6', '7', '8', '9', 'a', 'b',
    'c', 'd', 'e', 'f']

theorem mem_escapeAlphabet_of_mem_hexDigits {width value : Nat} {d : Char}
    (mem : d ∈ Text.hexDigits width value) : d ∈ escapeAlphabet := by
  have digits : ∀ digit < 16, Nat.digitChar digit ∈ escapeAlphabet := by decide
  induction width generalizing value with
  | zero => exact absurd mem List.not_mem_nil
  | succ width ih =>
      rw [Text.hexDigits, List.mem_append, List.mem_singleton] at mem
      rcases mem with before | rfl
      · exact ih before
      · exact digits (value % 16) (Nat.mod_lt _ (by decide))

theorem mem_escapeAlphabet_of_mem_unitEscape {unit : Nat} {d : Char}
    (mem : d ∈ unitEscape unit) : d ∈ escapeAlphabet := by
  rcases List.mem_cons.mp mem with rfl | mem
  · decide
  · rcases List.mem_cons.mp mem with rfl | mem
    · decide
    · exact mem_escapeAlphabet_of_mem_hexDigits mem

theorem mem_escapeAlphabet_of_mem_unicodeEscape {d : Char} (mem : d ∈ unicodeEscape c) :
    d ∈ escapeAlphabet := by
  unfold unicodeEscape at mem
  split at mem
  · exact mem_escapeAlphabet_of_mem_unitEscape mem
  · rcases List.mem_append.mp mem with mem | mem <;>
      exact mem_escapeAlphabet_of_mem_unitEscape mem

/-- A character is written as it stands, unless it is a line feed, or as an escape. -/
theorem literalChar_eq_or_escape (ascii : Bool) (c : Char) :
    literalChar ascii c = [c] ∧ c ≠ '\n' ∨
      literalChar ascii c ≠ [] ∧ literalChar ascii c ⊆ escapeAlphabet := by
  unfold literalChar
  split
  case h_8 _ _ feed _ _ _ _ =>
      split
      case isTrue =>
          exact Or.inr ⟨List.cons_ne_nil _ _, fun _ => mem_escapeAlphabet_of_mem_unitEscape⟩
      case isFalse =>
          split
          case isTrue =>
              refine Or.inr ⟨?_, fun _ => mem_escapeAlphabet_of_mem_unicodeEscape⟩
              unfold unicodeEscape
              split <;> exact List.cons_ne_nil _ _
          case isFalse => exact Or.inl ⟨rfl, feed⟩
  all_goals exact Or.inr ⟨List.cons_ne_nil _ _, by decide⟩

/-- No character is written with a line feed. -/
theorem feed_not_mem_literalChar (ascii : Bool) (c : Char) : '\n' ∉ literalChar ascii c := by
  rcases literalChar_eq_or_escape ascii c with ⟨plain, feed⟩ | ⟨-, escape⟩
  · rw [plain, List.mem_singleton]
    exact Ne.symm feed
  · intro mem
    exact absurd (escape mem) (by decide)

theorem feed_not_mem_stringLiteral (ascii : Bool) (text : String) :
    '\n' ∉ stringLiteral ascii text := by
  have inside : '\n' ∉ text.toList.flatMap (literalChar ascii) := by
    rw [List.mem_flatMap]
    rintro ⟨c, _, mem⟩
    exact feed_not_mem_literalChar ascii c mem
  simp [stringLiteral, inside]

end DesignTokens.Json
