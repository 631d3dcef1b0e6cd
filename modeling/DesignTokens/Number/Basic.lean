import DesignTokens.Number.Shortest

/-!
# Numbers

A number is an integer of any size or a double. The stored form of a number turns
doubles that are whole into integers, and generated style sheets write every whole
number without a fraction.

## Implementation notes

Whole numbers of more than `digitLimit` digits can neither be read nor written. The texts
here are total, and stand for what is written as long as a number keeps to the limit
(`limitedText`). All numbers of a model that comes from a text keep to it
(`Model.Loaded.limited`); among the numbers that are computed from them only percentages
may exceed it.
-/

namespace DesignTokens

/-- An integer of any size or a double. -/
inductive Number where
  | integer (value : Int)
  | real (value : Number.Binary64)
  deriving DecidableEq, Repr, Inhabited

namespace Number

/-- The text of an integer. -/
def integerText : Int → List Char
  | .ofNat n => digitsOf n
  | .negSucc n => '-' :: digitsOf (n + 1)

/-- The stored form: a double that is whole becomes an integer. -/
def normalize : Number → Number
  | .integer n => .integer n
  | .real x =>
    match x.toInt? with
    | some n => .integer n
    | none => .real x

/-- The text of a number that keeps integers and doubles apart. -/
def text : Number → String
  | .integer n => String.ofList (integerText n)
  | .real x => String.ofList x.text

/-- The text of a number in a style sheet, which is written if the number keeps to the
limit of digits. -/
def cssText (x : Number) : String :=
  x.normalize.text

/-- A length in pixels. -/
def pixels (x : Number) : String :=
  x.cssText ++ "px"

/-- Whether a number is zero, in either form and of either sign. -/
def isZero : Number → Bool
  | .integer n => n == 0
  | .real x => x.isZero

/-- The order of numbers by value. -/
def lt : Number → Number → Bool
  | .integer m, .integer n => m < n
  | .integer m, .real (.finite n s) =>
    m * Number.unitsPerOne < Binary64.signedUnits n s
  | .real (.finite m r), .integer n =>
    Binary64.signedUnits m r < n * Number.unitsPerOne
  | .integer _, .real (.infinite n) => !n
  | .real (.infinite m), .integer _ => m
  | .real x, .real y => x.lt y
  | _, _ => false

/-- Insert a number into a list in ascending order, unless it is there already. -/
def insertAscending (x : Number) : List Number → List Number
  | [] => [x]
  | y :: rest =>
    if x = y then y :: rest
    else if x.lt y then x :: y :: rest
    else y :: insertAscending x rest

/-- The distinct numbers of a list in ascending order. -/
def distinctAscending (xs : List Number) : List Number :=
  xs.foldl (fun sorted x => insertAscending x sorted) []

/-- A fraction of one as a percentage with at most two places. -/
def percentage : Number → Number
  | .integer n => .integer (n * 100)
  | .real x => .real x.timesHundred.toHundredths

/-- The text of a number in a style sheet, unless it is whole and has too many digits. -/
def limitedText (x : Number) : Except DigitFault String :=
  match x.normalize with
  | .integer n =>
    if (digitsOf n.natAbs).length ≤ digitLimit then .ok x.cssText else .error .unwritten
  | .real _ => .ok x.cssText

@[simp] theorem normalize_integer (n : Int) : (integer n).normalize = integer n := rfl

@[simp] theorem normalize_normalize (x : Number) : x.normalize.normalize = x.normalize := by
  cases x with
  | integer n => rfl
  | real x =>
    cases h : x.toInt? with
    | some n => simp [normalize, h]
    | none => simp [normalize, h]

@[simp] theorem cssText_normalize (x : Number) : x.normalize.cssText = x.cssText := by
  simp [cssText]

end Number

end DesignTokens
