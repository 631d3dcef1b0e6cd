import DesignTokens.Text.Blank
import DesignTokens.Text.Columns

/-!
# Wrapping

A line that is too wide for its column is broken before words. A word holds the blanks
after it, so that nothing of the line is lost, and may let them hang over the edge; a
word that is too wide alone is shortened.
-/

namespace DesignTokens.Terminal

/-- Words with one more character before them. A blank belongs to the word before it,
and those that start a text belong to its first word. -/
def prependToWords (c : Char) : List (List Char) → List (List Char)
  | [] => [[c]]
  | word :: rest =>
    let solid := word.dropWhile Text.isBlank
    if Text.isBlank c || solid.isEmpty || solid.length = word.length then (c :: word) :: rest
    else (c :: word.takeWhile Text.isBlank) :: solid :: rest

/-- The words of a text. -/
def words (text : List Char) : List (List Char) :=
  text.foldr prependToWords []

/-- Words in lines of at most `width` columns, from the line `current` on, whose words
take `taken` columns. A word starts a new line where it does not fit, unless the line is
still empty. -/
def breakWords (width : Nat) (current : List Char) (taken : Nat) :
    List (List Char) → List (List Char)
  | [] => [current]
  | word :: rest =>
    let needed := Text.columns (Text.dropEnd Text.isBlank word)
    if taken + needed ≤ width || current.isEmpty then
      breakWords width (current ++ word) (taken + Text.columns word) rest
    else current :: breakWords width word (Text.columns word) rest

/-- A line without as many of the blanks at its end as it has characters more than
columns. -/
def withoutOverhang (width : Nat) (line : List Char) : List Char :=
  let blanks := (line.reverse.takeWhile Text.isBlank).length
  line.take (line.length - min blanks (line.length - width))

/-- The lines that a line takes in a column. -/
def wrapped (width : Nat) (line : List Char) : List (List Char) :=
  (breakWords width [] 0 (words line)).map fun part =>
    Text.shortened width (withoutOverhang width part)

end DesignTokens.Terminal
