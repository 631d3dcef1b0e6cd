import DesignTokens.Number.Digits
import DesignTokens.Text.Hex
import DesignTokens.Toml.Fault
import DesignTokens.Toml.Value

/-!
# Numbers and times in settings files

Each reader answers what follows the longest number, date or time that a text starts
with.
-/

namespace DesignTokens.Toml

/-- What follows a number of digits that a text starts with, and their value. -/
def readDigits? (count : Nat) (s : List Char) : Option (Nat × List Char) :=
  let digits := s.take count
  if digits.length = count ∧ digits.all Char.isDigit then
    some (Number.digitsValue digits, s.drop count)
  else none

/-- A number of two digits in a range. -/
def readTwo? (low high : Nat) (s : List Char) : Option (Nat × List Char) := do
  let (value, rest) ← readDigits? 2 s
  if low ≤ value ∧ value ≤ high then some (value, rest) else none

/-- What follows a character that a text starts with. -/
def skip? (expected : Char) : List Char → Option (List Char)
  | c :: rest => if c = expected then some rest else none
  | [] => none

/-- What follows a time of day, with a fraction of a second if there is one. -/
def skipTime? (s : List Char) : Option (List Char) := do
  let (_, s) ← readTwo? 0 23 s
  let (_, s) ← readTwo? 0 59 (← skip? ':' s)
  let (_, s) ← readTwo? 0 59 (← skip? ':' s)
  match s with
  | '.' :: c :: rest => if c.isDigit then some (rest.dropWhile Char.isDigit) else some s
  | _ => some s

/-- What follows an offset from universal time, if there is one. -/
def skipOffset (s : List Char) : List Char :=
  match s with
  | 'Z' :: rest => rest
  | 'z' :: rest => rest
  | c :: rest =>
    if c = '+' ∨ c = '-' then
      (do
        let (_, s) ← readTwo? 0 23 rest
        let (_, s) ← readTwo? 0 59 (← skip? ':' s)
        some s).getD s
    else s
  | [] => s

/-- The number of days of a month. -/
def daysOf (year month : Nat) : Nat :=
  if month = 2 then
    if year % 4 = 0 ∧ (year % 100 ≠ 0 ∨ year % 400 = 0) then 29 else 28
  else if month = 4 ∨ month = 6 ∨ month = 9 ∨ month = 11 then 30
  else 31

/-- The year, the month and the day that a text starts with. -/
def readDate? (s : List Char) : Option ((Nat × Nat × Nat) × List Char) := do
  let (year, s) ← readDigits? 4 s
  let (month, s) ← readTwo? 1 12 (← skip? '-' s)
  let (day, s) ← readTwo? 1 31 (← skip? '-' s)
  some ((year, month, day), s)

/-- What follows a date that a time of day continues. -/
def skipTimeOfDate? (s : List Char) : Option (List Char) :=
  match s with
  | c :: rest =>
    if c = 'T' ∨ c = 't' ∨ c = ' ' then (skipTime? rest).map skipOffset else none
  | [] => none

/-- A date, with a time of day if one follows. A text that has the form of a date but
names no day of the calendar is refused. -/
def readDateTime? (s : List Char) : Option (Except Fault (Value × List Char)) := do
  let ((year, month, day), rest) ← readDate? s
  some <|
    if year = 0 ∨ daysOf year month < day then .error .malformed
    else
      match skipTimeOfDate? rest with
      | some after => .ok (.dateTime, after)
      | none => .ok (.date, rest)

/-- What follows digits of a class, the first of which is required and every other
one of which may have a low line in front. -/
def skipGrouped? (isDigit : Char → Bool) : List Char → Option (List Char)
  | [] => none
  | c :: rest => if isDigit c then some (more rest) else none
where
  /-- What follows further digits. -/
  more : List Char → List Char
    | '_' :: c :: rest => if isDigit c then more rest else '_' :: c :: rest
    | c :: rest => if isDigit c then more rest else c :: rest
    | [] => []

/-- A binary or octal digit. -/
def isDigitBelow (limit : Nat) (c : Char) : Bool :=
  match Text.hexValue? c with
  | some value => value < limit
  | none => false

/-- What follows a whole number in another base. -/
def skipBased? (s : List Char) : Option (List Char) :=
  match s with
  | '0' :: 'x' :: rest => skipGrouped? Text.isHexDigit rest
  | '0' :: 'b' :: rest => skipGrouped? (isDigitBelow 2) rest
  | '0' :: 'o' :: rest => skipGrouped? (isDigitBelow 8) rest
  | _ => none

/-- What follows the whole part of a decimal number. -/
def skipWhole? (s : List Char) : Option (List Char) :=
  let unsigned := match s with
    | '+' :: rest => rest
    | '-' :: rest => rest
    | _ => s
  match unsigned with
  | '0' :: rest => some rest
  | _ => skipGrouped? Char.isDigit unsigned

/-- What follows the fraction of a decimal number, if there is one. -/
def skipFraction? (s : List Char) : Option (List Char) :=
  match s with
  | '.' :: rest => skipGrouped? Char.isDigit rest
  | _ => none

/-- What follows the exponent of a decimal number, if there is one. -/
def skipExponent? (s : List Char) : Option (List Char) :=
  match s with
  | c :: rest =>
    if c = 'e' ∨ c = 'E' then
      match rest with
      | '+' :: digits => skipGrouped? Char.isDigit digits
      | '-' :: digits => skipGrouped? Char.isDigit digits
      | _ => skipGrouped? Char.isDigit rest
    else none
  | [] => none

/-- The number of digits in front of a rest of a text. -/
def digitsBefore (rest s : List Char) : Nat :=
  (s.take (s.length - rest.length)).countP Char.isDigit

/-- A decimal whole number with a rest after it. Its sign and its low lines do not count
toward the limit of digits. -/
def wholeBefore (rest s : List Char) : Except Fault (Value × List Char) :=
  let count := digitsBefore rest s
  if count ≤ Number.digitLimit then .ok (.integer, rest)
  else .error (.digits (.inText count))

/-- A number in any base. Only decimal whole numbers are limited. -/
def readNumber? (s : List Char) : Option (Except Fault (Value × List Char)) :=
  match skipBased? s with
  | some rest => some (.ok (.integer, rest))
  | none =>
    (skipWhole? s).map fun afterWhole =>
      let afterFraction := (skipFraction? afterWhole).getD afterWhole
      let afterExponent := (skipExponent? afterFraction).getD afterFraction
      if afterExponent.length = afterWhole.length then wholeBefore afterWhole s
      else .ok (.fraction, afterExponent)

/-- An infinity or what is not a number. -/
def readNamed? (s : List Char) : Option (Value × List Char) :=
  let unsigned := match s with
    | '+' :: rest => rest
    | '-' :: rest => rest
    | _ => s
  match unsigned with
  | 'i' :: 'n' :: 'f' :: rest => some (.fraction, rest)
  | 'n' :: 'a' :: 'n' :: rest => some (.fraction, rest)
  | _ => none

/-- A truth value. -/
def readBool? (s : List Char) : Option (Value × List Char) :=
  match s with
  | 't' :: 'r' :: 'u' :: 'e' :: rest => some (.bool true, rest)
  | 'f' :: 'a' :: 'l' :: 's' :: 'e' :: rest => some (.bool false, rest)
  | _ => none

/-- A truth value, a date, a time or a number. -/
def readScalar (s : List Char) : Except Fault (Value × List Char) :=
  match readBool? s with
  | some found => .ok found
  | none =>
    match readDateTime? s with
    | some found => found
    | none =>
      match skipTime? s with
      | some rest => .ok (.time, rest)
      | none =>
        match readNumber? s with
        | some found => found
        | none => required (readNamed? s)

end DesignTokens.Toml
