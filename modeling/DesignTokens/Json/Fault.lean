import DesignTokens.Number.Digits
import DesignTokens.Text.Lines

/-!
# Faults in a document

A fault is a defect and the place where reading stopped. Lines are counted by line
feeds and columns by characters, both from one; the excerpt is the line of that
number among all lines that the text is broken into.
-/

namespace DesignTokens.Json

/-- What is wrong with a document. -/
inductive Defect where
  | byteOrderMark
  | valueExpected
  | nameExpected
  | colonExpected
  | commaExpected
  | extraData
  | unterminatedString
  | controlCharacter
  | unknownEscape
  | badUnicodeEscape
  | tooManyDigits (count : Nat)
  deriving DecidableEq, Repr

namespace Defect

/-- The wording of a defect. -/
def text : Defect → String
  | .byteOrderMark => "Unexpected UTF-8 BOM (decode using utf-8-sig)"
  | .valueExpected => "Expecting value"
  | .nameExpected => "Expecting property name enclosed in double quotes"
  | .colonExpected => "Expecting ':' delimiter"
  | .commaExpected => "Expecting ',' delimiter"
  | .extraData => "Extra data"
  | .unterminatedString => "Unterminated string starting at"
  | .controlCharacter => "Invalid control character at"
  | .unknownEscape => "Invalid \\escape"
  | .badUnicodeEscape => "Invalid \\uXXXX escape"
  | .tooManyDigits count => (Number.DigitFault.inText count).message

end Defect

/-- A defect and the number of characters before it. -/
structure Fault where
  defect : Defect
  offset : Nat
  deriving DecidableEq, Repr

namespace Fault

/-- The characters of the text before the fault. -/
def before (fault : Fault) (text : List Char) : List Char :=
  text.take fault.offset

/-- The line of a fault: one more than the line feeds before it. -/
def line (fault : Fault) (text : List Char) : Nat :=
  (fault.before text).count '\n' + 1

/-- The column of a fault: one more than the characters after the last line feed
before it. -/
def column (fault : Fault) (text : List Char) : Nat :=
  ((fault.before text).reverse.takeWhile (· ≠ '\n')).length + 1

/-- The line of the text that a message about the fault shows. -/
def excerpt? (fault : Fault) (text : List Char) : Option String :=
  ((Text.excerptLines text)[fault.line text - 1]?).map String.ofList

end Fault

end DesignTokens.Json
