import DesignTokens.Text.CodeRange
import DesignTokens.Text.Hex
import DesignTokens.Text.HiddenTable

/-!
# Quoted text in messages

A text that a message quotes stands between apostrophes, or between double
quotes when it holds an apostrophe and no double quote. Characters without a
visible form are written as escapes of two, four or eight hexadecimal digits.
-/

namespace DesignTokens.Text

/-- A character without a visible form. -/
def isHidden (c : Char) : Bool :=
  inRanges hiddenRanges c

/-- The mark that encloses a quoted text. -/
def quoteMark (text : List Char) : Char :=
  if text.contains '\'' && !text.contains '"' then '"' else '\''

/-- One character of a quoted text between the given marks. -/
def quotedChar (mark c : Char) : List Char :=
  if c == mark || c == '\\' then ['\\', c]
  else if c == '\n' then ['\\', 'n']
  else if c == '\r' then ['\\', 'r']
  else if c == '\t' then ['\\', 't']
  else if isHidden c then
    if c.toNat < 0x100 then '\\' :: 'x' :: hexDigits 2 c.toNat
    else if c.toNat < 0x10000 then '\\' :: 'u' :: hexDigits 4 c.toNat
    else '\\' :: 'U' :: hexDigits 8 c.toNat
  else [c]

/-- A text as a message quotes it. -/
def quoted (text : String) : String :=
  let mark := quoteMark text.toList
  String.ofList (mark :: text.toList.flatMap (quotedChar mark) ++ [mark])

end DesignTokens.Text
