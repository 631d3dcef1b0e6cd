import DesignTokens.Text.CodeRange

/-!
# Blank characters

Two classes are used. A separator between words is any white space, the four
information separators `U+001C` to `U+001F` included; the padding of a number is
white space in the narrower sense of the Unicode property, without those four.
-/

namespace DesignTokens.Text

/-- White space as the Unicode property has it. -/
def paddingRanges : List (Nat × Nat) := [
  (0x09, 0x0D), (0x20, 0x20), (0x85, 0x85), (0xA0, 0xA0), (0x1680, 0x1680),
  (0x2000, 0x200A), (0x2028, 0x2029), (0x202F, 0x202F), (0x205F, 0x205F),
  (0x3000, 0x3000)]

/-- White space around a number. -/
def isPadding (c : Char) : Bool :=
  inRanges paddingRanges c

/-- White space between words. -/
def isBlank (c : Char) : Bool :=
  inRanges ((0x1C, 0x1F) :: paddingRanges) c

/-- What remains of a text after dropping the characters of a class from its end. -/
def dropEnd (drop : Char → Bool) (text : List Char) : List Char :=
  (text.reverse.dropWhile drop).reverse

/-- What remains of a text after dropping the characters of a class from both ends. -/
def dropEnds (drop : Char → Bool) (text : List Char) : List Char :=
  dropEnd drop (text.dropWhile drop)

@[simp] theorem dropEnd_nil (drop : Char → Bool) : dropEnd drop [] = [] := rfl

/-- A line without the white space at its end. -/
def withoutTrailingBlank (line : String) : String :=
  String.ofList (dropEnd isBlank line.toList)

end DesignTokens.Text
