/-!
# Decimal digits

Reading a run of ASCII digits as a number, and writing a number as digits. Whole numbers
of very many digits are neither read nor written.
-/

namespace DesignTokens.Number

/-- The number that a list of digits writes, after the digits already read. -/
def digitsValueFrom (total : Nat) (digits : List Char) : Nat :=
  digits.foldl (fun sum c => 10 * sum + (c.toNat - '0'.toNat)) total

/-- The number that a list of digits writes. -/
def digitsValue (digits : List Char) : Nat :=
  digitsValueFrom 0 digits

/-- The digits of a number, without leading zeros. -/
def digitsOf (n : Nat) : List Char :=
  Nat.toDigits 10 n

/-- The most digits that a whole number is read from or written with. -/
def digitLimit : Nat := 4300

/-- A whole number with too many digits, met in a text or about to be written. Its digits
are counted only in a text. -/
inductive DigitFault where
  | inText (count : Nat)
  | unwritten
  deriving DecidableEq, Repr

/-- The wording of a fault. -/
def DigitFault.message (fault : DigitFault) : String :=
  "Exceeds the limit (" ++ toString digitLimit ++ " digits) for integer string conversion" ++
    (match fault with
      | .inText count => ": value has " ++ toString count ++ " digits"
      | .unwritten => "") ++
    "; use sys.set_int_max_str_digits() to increase the limit"

@[simp] theorem digitsValue_nil : digitsValue [] = 0 := rfl

theorem digitsValueFrom_append (total : Nat) (s t : List Char) :
    digitsValueFrom total (s ++ t) = digitsValueFrom (digitsValueFrom total s) t := by
  simp [digitsValueFrom]

end DesignTokens.Number
