import DesignTokens.Number.Basic
import DesignTokens.Text.Blank

/-!
# Number texts

Two readers. A number inside a document is the longest number that the rest of the
document starts with. A number given as a text fills the whole text, with padding
around it, and is read first as a whole number and then as a fraction.
-/

namespace DesignTokens.Number

/-- The digits that a text starts with, and the rest. -/
def spanDigits (s : List Char) : List Char × List Char :=
  (s.takeWhile Char.isDigit, s.dropWhile Char.isDigit)

/-- Whether a text starts with a minus sign, and the rest. -/
def spanMinus : List Char → Bool × List Char
  | '-' :: rest => (true, rest)
  | s => (false, s)

/-- A sign that a text may start with, and the rest. -/
def spanSign : List Char → Bool × List Char
  | '-' :: rest => (true, rest)
  | '+' :: rest => (false, rest)
  | s => (false, s)

/-- The value of signed digits. -/
def signed (negative : Bool) (digits : List Char) : Int :=
  if negative then -(digitsValue digits : Int) else (digitsValue digits : Int)

/-- The whole part of a number in a document: a zero, or digits that start with
another one. -/
def scanWhole : List Char → Option (List Char × List Char)
  | [] => none
  | c :: rest =>
    if c = '0' then some (['0'], rest)
    else if c.isDigit then some (c :: rest.takeWhile Char.isDigit, rest.dropWhile Char.isDigit)
    else none

/-- The number of digits of the whole part that a document's rest starts with after a
minus sign. A zero in front is all of it. -/
def wholeDigits (s : List Char) : Nat :=
  match scanWhole (spanMinus s).2 with
  | some (digits, _) => digits.length
  | none => 0

/-- The digits after a decimal mark, if there are any. -/
def scanFraction : List Char → Option (List Char × List Char)
  | '.' :: rest =>
    match spanDigits rest with
    | ([], _) => none
    | found => some found
  | _ => none

/-- The value of an exponent, if there is one. -/
def scanExponent : List Char → Option (Int × List Char)
  | c :: rest =>
    if c = 'e' ∨ c = 'E' then
      let (negative, unsigned) := spanSign rest
      match spanDigits unsigned with
      | ([], _) => none
      | (digits, after) => some (signed negative digits, after)
    else none
  | [] => none

/-- The double that a sign, whole digits, fraction digits and an exponent write. -/
def composed (negative : Bool) (whole fraction : List Char) (exponent : Int) : Binary64 :=
  Binary64.ofDecimal ⟨negative, digitsValue (whole ++ fraction), exponent - fraction.length⟩

/-- The longest number that a document's rest starts with. A fraction or an exponent
makes it a double. -/
def scan (s : List Char) : Option (Number × List Char) :=
  let (negative, unsigned) := spanMinus s
  match scanWhole unsigned with
  | none => none
  | some (whole, afterWhole) =>
    let (fraction, afterFraction) := match scanFraction afterWhole with
      | some (digits, after) => (digits, after)
      | none => ([], afterWhole)
    match scanExponent afterFraction with
    | some (exponent, after) => some (.real (composed negative whole fraction exponent), after)
    | none =>
      if fraction.isEmpty then some (.integer (signed negative whole), afterWhole)
      else some (.real (composed negative whole fraction 0), afterFraction)

/-- What is left of a text once the zeros and low lines that it goes on with after
`last` are dropped: all from another digit or a minus sign on, all from the character
before a decimal mark on, and at the end of the text its last character. -/
def afterZeros? (last : Char) : List Char → Option (List Char)
  | [] => some [last]
  | c :: rest =>
    if c = '0' ∨ c = '_' then afterZeros? c rest
    else if c.isDigit ∨ c = '-' then some (c :: rest)
    else if c = '.' then some (last :: c :: rest)
    else none

/-- A text that starts with a digit, without the zeros that lead it. -/
def withoutLeadingZeros? : List Char → Option (List Char)
  | [] => none
  | c :: rest =>
    if c = '0' then afterZeros? c rest
    else if c.isDigit then some (c :: rest)
    else none

/-- A whole number's text without the zeros that lead it: a plus sign before a digit
is dropped, and a minus sign stays. -/
def withoutSignedZeros? : List Char → Option (List Char)
  | '-' :: '0' :: rest => (afterZeros? '0' rest).map ('-' :: ·)
  | '-' :: rest => some ('-' :: rest)
  | '+' :: rest => withoutLeadingZeros? rest
  | s => withoutLeadingZeros? s

/-- A text without a decimal mark and the zeros after it, at least one, if it ends so. -/
def withoutZeroFraction (s : List Char) : List Char :=
  match s.dropWhile (· ≠ '.') with
  | '.' :: '0' :: rest => if rest.all (· = '0') then s.takeWhile (· ≠ '.') else s
  | _ => s

/-- A text whose low lines stand single and between other characters, without them. -/
def withoutLowLines? (s : List Char) : Option (List Char) :=
  let single := (s.zip s.tail).all fun pair => pair.1 ≠ '_' || pair.2 ≠ '_'
  if s.contains '_' && s.head? ≠ some '_' && s.getLast? ≠ some '_' && single then
    some (s.filter (· ≠ '_'))
  else none

/-- The whole number that fills a text, as a document writes it. A minus sign counts
toward the limit of digits here. -/
def plainWhole? (s : List Char) : Option Int :=
  let (negative, unsigned) := spanMinus s
  match scanWhole unsigned with
  | some (digits, []) =>
    if s.length ≤ digitLimit then some (signed negative digits) else none
  | _ => none

/-- A whole number given as a text: zeros may lead it, low lines may group its digits,
and a fraction of zeros may end it. -/
def wholeOfText? (s : List Char) : Option Int :=
  (withoutSignedZeros? s).bind fun stripped =>
    let plain := withoutZeroFraction stripped
    plainWhole? ((withoutLowLines? plain).getD plain)

/-- The name of an infinity or of what is not a number, in any case. -/
def namedOfText? (negative : Bool) (s : List Char) : Option Binary64 :=
  let name := String.ofList (s.map Char.toLower)
  if name = "inf" ∨ name = "infinity" then some (.infinite negative)
  else if name = "nan" then some .nan
  else none

/-- A fraction given as a text: digits around a decimal mark, at least one of them,
and an exponent. -/
def fractionOfText? (s : List Char) : Option Binary64 :=
  let (negative, unsigned) := spanSign s
  match namedOfText? negative unsigned with
  | some x => some x
  | none =>
    let (whole, afterWhole) := spanDigits unsigned
    let (fraction, afterFraction) := match afterWhole with
      | '.' :: rest => spanDigits rest
      | _ => ([], afterWhole)
    if whole.isEmpty && fraction.isEmpty then none
    else
      match afterFraction with
      | [] => some (composed negative whole fraction 0)
      | _ =>
        match scanExponent afterFraction with
        | some (exponent, []) => some (composed negative whole fraction exponent)
        | _ => none

/-- The number that a text gives: a whole number if it reads as one, and otherwise
a fraction, whose digits may be grouped by low lines when nothing pads it. -/
def ofText? (text : String) : Option Number :=
  let trimmed := Text.dropEnds Text.isPadding text.toList
  match wholeOfText? trimmed with
  | some n => some (.integer n)
  | none =>
    match fractionOfText? trimmed with
    | some x => some (.real x)
    | none => ((withoutLowLines? text.toList).bind fractionOfText?).map .real

end DesignTokens.Number
