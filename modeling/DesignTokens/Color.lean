import DesignTokens.Text.Hex

/-!
# Color values

A color of eight hexadecimal digits whose last two say that it covers what is
below it is written without them. A line feed after the digits is dropped with
them; every other value stays as it is.
-/

namespace DesignTokens.Color

/-- The six digits in front of a full alpha channel, with the mark before them. -/
def solidDigits? (value : List Char) : Option (List Char) :=
  let (mark, digits) := match value with
    | '#' :: rest => (['#'], rest)
    | _ => ([], value)
  let color := digits.take 6
  let alpha := digits.drop 6
  if color.length = 6 ∧ color.all Text.isHexDigit ∧ alpha.length = 2 ∧
      alpha.all (fun c => c == 'f' || c == 'F') then
    some (mark ++ color)
  else none

/-- The characters of a value without a line feed at its end. -/
def withoutFinalFeed (value : List Char) : List Char :=
  if value.getLast? = some '\n' then value.dropLast else value

/-- A color value without a full alpha channel. -/
def clean (value : String) : String :=
  match solidDigits? (withoutFinalFeed value.toList) with
  | some digits => String.ofList digits
  | none => value

end DesignTokens.Color
