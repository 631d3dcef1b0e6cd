import DesignTokens.Text.Columns
import DesignTokens.Text.Lines

/-!
# Text on a terminal

A terminal shows no control characters that would move its cursor, and a tab goes on
to the next tab stop.
-/

namespace DesignTokens.Terminal

/-- The number of columns of the terminal. -/
def width : Nat := 200

/-- A control that is not sent to a terminal. -/
def isUnsent (c : Char) : Bool :=
  c == '\x07' || c == '\x08' || c == '\x0b' || c == '\x0c' || c == '\r'

/-- The part of a text that is sent to a terminal. -/
def sent (text : List Char) : List Char :=
  text.filter fun c => !isUnsent c

/-- Parts of a line that tabs separate, put together: a blank stands for every tab, and
more of them up to the next of the tab stops, which stand `size` columns apart. The
parts before take `column` columns, and `measure` is the width of a part. -/
def joinAtTabs (size : Nat) (measure : List Char → Nat) (column : Nat) :
    List (List Char) → List Char
  | [] => []
  | [last] => last
  | part :: rest =>
    let reached := column + measure (part ++ [' '])
    let missing := (size - reached % size) % size
    part ++ ' ' :: List.replicate missing ' ' ++
      joinAtTabs size measure (reached + missing) rest

/-- A line with blanks for its tabs. -/
def expandTabs (size : Nat) (measure : List Char → Nat) (line : List Char) : List Char :=
  joinAtTabs size measure 0 (line.splitOn '\t')

/-- The distance of tab stops in running text. -/
def tabSize : Nat := 8

/-- The distance of tab stops in program text. -/
def listingTabSize : Nat := 4

/-- A line of running text with blanks for its tabs. -/
def untabbed (line : List Char) : List Char :=
  expandTabs tabSize Text.columns line

/-- A text as a terminal shows it. -/
def shown (text : String) : String :=
  Text.joinLines ((Text.feedLines (sent text.toList)).map fun line =>
    String.ofList (untabbed line))

/-- A printed line. -/
def line (text : String) : String :=
  shown text ++ "\n"

/-- Program text as a terminal shows it, and an empty line after it. Its tab stops are
counted by characters. -/
def listing (content : String) : String :=
  Text.joinLines ((Text.feedLines (Text.unifyNewlines content.toList)).map fun line =>
    String.ofList (sent (expandTabs listingTabSize List.length line))) ++ "\n"

/-- A line across the terminal with a title in its middle. -/
def rule (title : String) : String :=
  let taken := Text.columns title.toList
  let side := (width - taken) / 2
  let left := side - 1
  let right := width - left - taken - 2
  Text.repeated '─' left ++ " " ++ title ++ " " ++ Text.repeated '─' right ++ "\n"

end DesignTokens.Terminal
