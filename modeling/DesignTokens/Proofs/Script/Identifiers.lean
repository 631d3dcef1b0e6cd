import DesignTokens.Proofs.Key.Segments
import DesignTokens.Proofs.Text.IdentifierStart
import DesignTokens.Script.Names

/-!
# Identifiers

The name of a constant keeps the characters that may stand in an identifier, so it is one
unless nothing is kept, or a character in front that may not come first. ASCII letters and
digits are always kept.
-/

namespace DesignTokens.Script

/-- A character that may stand in an identifier. -/
def isIdentifierPart (c : Char) : Bool :=
  c == '$' || Text.continuesIdentifier c

/-- A text that is one identifier, keywords included. -/
def IsIdentifier (name : String) : Prop :=
  name.toList.head?.any Text.startsIdentifier = true ∧
    ∀ c ∈ name.toList, isIdentifierPart c = true

instance (name : String) : Decidable (IsIdentifier name) :=
  letI := List.decidableBAll (fun c => isIdentifierPart c = true) name.toList
  inferInstanceAs (Decidable (_ ∧ _))

theorem toList_identifier (name : String) :
    (identifier name).toList = name.toList.filter isIdentifierPart := by
  rw [identifier, String.toList_ofList]
  rfl

/-- Whatever stands in the name of a constant may stand in an identifier. -/
theorem isIdentifierPart_of_mem_identifier {name : String} {c : Char}
    (mem : c ∈ (identifier name).toList) : isIdentifierPart c = true := by
  rw [toList_identifier] at mem
  exact (List.mem_filter.mp mem).2

theorem feed_not_mem_identifier (name : String) : '\n' ∉ (identifier name).toList := by
  have other : isIdentifierPart '\n' ≠ true := by decide +kernel
  exact fun mem => other (isIdentifierPart_of_mem_identifier mem)

theorem identifier_append (first second : String) :
    identifier (first ++ second) = identifier first ++ identifier second := by
  apply String.toList_injective
  rw [String.toList_append, toList_identifier, toList_identifier, toList_identifier,
    String.toList_append, List.filter_append]

/-- The name of a constant is an identifier exactly if its first character may come first. -/
theorem isIdentifier_identifier_iff (name : String) :
    IsIdentifier (identifier name) ↔
      (identifier name).toList.head?.any Text.startsIdentifier = true :=
  and_iff_left fun _ mem => isIdentifierPart_of_mem_identifier mem

theorem isIdentifierPart_of_isPlain {c : Char} (plain : Key.isPlain c = true) :
    isIdentifierPart c = true := by
  have class_mem : Text.continuesIdentifier c = true := by
    rw [Text.continuesIdentifier, Text.inRanges_iff]
    rw [Key.isPlain_iff, Key.isUpper_iff, Key.isLower_iff, Key.isDigit_iff] at plain
    rcases plain with (upper | lower) | digit
    · exact ⟨(0x41, 0x5A), by decide, upper⟩
    · exact ⟨(0x61, 0x7A), by decide, lower⟩
    · exact ⟨(0x30, 0x39), by decide, digit⟩
  rw [isIdentifierPart, class_mem, Bool.or_true]

/-- A name of ASCII letters and digits is kept as it is. -/
theorem filter_isIdentifierPart_of_isPlain {text : List Char}
    (plain : ∀ c ∈ text, Key.isPlain c = true) : text.filter isIdentifierPart = text := by
  rw [List.filter_eq_self]
  intro c mem
  exact isIdentifierPart_of_isPlain (plain c mem)

/-- A lower-case letter may come first. -/
theorem startsIdentifier_of_isLower {c : Char} (lower : c.isLower = true) :
    Text.startsIdentifier c = true := by
  have part := isIdentifierPart_of_isPlain (Key.isPlain_of_lower_or_digit (Or.inl lower))
  have outside : ∀ n, n < 123 → 97 ≤ n → ∀ range ∈ Text.identifierTailRanges,
      ¬ (range.1 ≤ n ∧ n ≤ range.2) := by
    decide +kernel
  have first : Text.inRanges Text.identifierTailRanges c = false := by
    rw [Bool.eq_false_iff, ne_eq, Text.inRanges_iff]
    rintro ⟨range, mem, inside⟩
    have bounds := Key.isLower_iff.mp lower
    exact outside c.toNat (by omega) bounds.1 range mem inside
  rw [isIdentifierPart, Bool.or_eq_true] at part
  rw [Text.startsIdentifier, first, Bool.not_false, Bool.and_true, Bool.or_eq_true]
  exact part

end DesignTokens.Script
