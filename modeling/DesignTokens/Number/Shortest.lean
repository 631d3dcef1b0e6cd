import DesignTokens.Number.Binary64

/-!
# Shortest decimals

The decimal of a double has the fewest digits that read back to the double; among
those it is the nearest to the double, and of two equally near ones the one with an
even last digit.

A double is a whole number `m` times `10 ^ (-1074)`. For each number of digits the
two decimals next to it are tried, nearest first, and the exact decimal, which
always reads back, comes last.
-/

namespace DesignTokens.Number

namespace Binary64

/-- The magnitude of a rank in units of `10 ^ (-1074)`. -/
def tenUnits (rank : Nat) : Nat :=
  units rank * Nat.pow 5 1074

/-- The neighbours of `m` that drop its last `dropped` digits, nearest first. -/
def neighbours (m dropped : Nat) : List Nat :=
  let step := Nat.pow 10 dropped
  let below := m / step
  let twice := 2 * (m % step)
  if m % step = 0 then [below]
  else if twice < step then [below, below + 1]
  else if step < twice then [below + 1, below]
  else if below % 2 = 0 then [below, below + 1]
  else [below + 1, below]

/-- The decimals of at most seventeen digits next to a rank, shortest first, and
then its exact decimal. -/
def decimalsNear (rank : Nat) : List Decimal :=
  let m := tenUnits rank
  let length := (digitsOf m).length
  let rounded := (List.range 17).flatMap fun kept =>
    let dropped := length - (kept + 1)
    (neighbours m dropped).map fun n => ⟨false, n, (dropped : Int) - 1074⟩
  rounded ++ [⟨false, m, -1074⟩]

/-- Whether a decimal reads back to a rank. -/
def readsBack (rank : Nat) (x : Decimal) : Bool :=
  decide (ofDecimal x = ofRank false rank)

/-- The shortest decimal that reads back to a rank. -/
def shortest (rank : Nat) : Decimal :=
  (((decimalsNear rank).find? (readsBack rank)).map Decimal.withoutTrailingZeros).getD
    ⟨false, tenUnits rank, -1074⟩

/-- The text of a double: its shortest decimal, or the name of what is not finite. -/
def text : Binary64 → List Char
  | .finite negative rank => { shortest rank with negative := negative }.text
  | .infinite false => ['i', 'n', 'f']
  | .infinite true => ['-', 'i', 'n', 'f']
  | .nan => ['n', 'a', 'n']

end Binary64

end DesignTokens.Number
