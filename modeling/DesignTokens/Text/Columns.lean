import DesignTokens.Text.CodeRange
import DesignTokens.Text.ColumnTable

/-!
# Terminal columns

The width of a text on a terminal, and how a text is padded or shortened to a width. A
joiner hides the character after it, and a selector turns some characters into pictures
of two columns. What a terminal shows as one is a cluster, and no cluster is cut.
-/

namespace DesignTokens.Text

/-- The character that joins the characters beside it to one picture. -/
def joiner : Char := '\u200D'

/-- The character that asks for the picture of the character before it. -/
def pictureSelector : Char := '\uFE0F'

/-- The number of columns that a character takes. -/
def columnsOf (c : Char) : Nat :=
  if inRanges flatRanges c then 0
  else if inRanges wideRanges c then 2
  else 1

/-- The columns that a selector adds to the last character that took any. -/
def pictureColumns : Option Char → Nat
  | some c => if inRanges pictureRanges c then 1 else 0
  | none => 0

/-! ## Measuring -/

/-- A text measured so far: its columns, the last character that took any unless a
selector came after it, and whether a joiner hides the next character. -/
structure Measure where
  total : Nat
  last : Option Char
  joined : Bool
  deriving DecidableEq, Repr

namespace Measure

/-- The measure of a text without characters. -/
def empty : Measure := ⟨0, none, false⟩

/-- The measure of a text with one more character. -/
def add (measure : Measure) (c : Char) : Measure :=
  if measure.joined then { measure with joined := false }
  else if c = joiner then { measure with joined := true }
  else if c = pictureSelector then
    ⟨measure.total + pictureColumns measure.last, none, false⟩
  else if columnsOf c = 0 then measure
  else ⟨measure.total + columnsOf c, some c, false⟩

end Measure

/-- The number of columns that a text takes. -/
def columns (text : List Char) : Nat :=
  (text.foldl Measure.add .empty).total

@[simp] theorem columns_nil : columns [] = 0 := rfl

/-! ## Clusters -/

/-- Characters that a terminal shows as one, and the columns that they take. -/
structure Cluster where
  text : List Char
  columns : Nat
  deriving DecidableEq, Repr

/-- The clusters of a text read so far, the last one first, with the last character that
took columns and whether a joiner binds the next character to the last cluster. -/
structure Clustering where
  reversed : List Cluster
  last : Option Char
  joined : Bool
  deriving DecidableEq, Repr

namespace Clustering

/-- Clusters, the last one first, with a character and its columns bound to the last. -/
def bind (c : Char) (more : Nat) : List Cluster → List Cluster
  | [] => [⟨[c], more⟩]
  | cluster :: rest => ⟨cluster.text ++ [c], cluster.columns + more⟩ :: rest

/-- The clusters of a text with one more character. A joiner that starts a text binds
nothing. -/
def add (clustering : Clustering) (c : Char) : Clustering :=
  if clustering.joined then ⟨bind c 0 clustering.reversed, clustering.last, false⟩
  else if c = joiner then
    ⟨bind c 0 clustering.reversed, clustering.last, !clustering.reversed.isEmpty⟩
  else if c = pictureSelector then
    ⟨bind c (pictureColumns clustering.last) clustering.reversed, none, false⟩
  else if columnsOf c = 0 then ⟨bind c 0 clustering.reversed, clustering.last, false⟩
  else ⟨⟨[c], columnsOf c⟩ :: clustering.reversed, some c, false⟩

end Clustering

/-- The clusters of a text. -/
def clusters (text : List Char) : List Cluster :=
  (text.foldl Clustering.add ⟨[], none, false⟩).reversed.reverse

/-! ## Fitting a text into columns -/

/-- The clusters that fit into a number of columns. A blank stands for the first half of
one that fits by half. -/
def fitting (room : Nat) : List Cluster → List Char
  | [] => []
  | cluster :: rest =>
    if room = 0 then []
    else if cluster.columns ≤ room then
      cluster.text ++ fitting (room - cluster.columns) rest
    else [' ']

/-- A text that fits into a number of columns, or else its start and an ellipsis. -/
def shortened (width : Nat) (text : List Char) : List Char :=
  if columns text ≤ width then text else fitting (width - 1) (clusters text) ++ ['…']

/-- A character written a number of times. -/
def repeated (c : Char) (count : Nat) : String :=
  String.ofList (List.replicate count c)

/-- Blanks that bring a text to a number of columns. -/
def padding (width : Nat) (text : List Char) : List Char :=
  List.replicate (width - columns text) ' '

/-- A text padded on the right to a number of columns. A joiner at its end hides the
first blank, so the padded text is measured and padded once more. -/
def padRight (width : Nat) (text : List Char) : List Char :=
  let padded := text ++ padding width text
  padded ++ padding width padded

/-- A text padded on the left to a number of columns. -/
def padLeft (width : Nat) (text : List Char) : List Char :=
  padding width text ++ text

end DesignTokens.Text
