/-!
# Lines

Three notions of a line meet here. Written text joins lines with a line feed and
error positions count line feeds alone; a file is read with every carriage
return, alone or before a line feed, as one line feed; and the excerpt of a text
breaks it at every character that ends a line anywhere.
-/

namespace DesignTokens.Text

/-- Lines joined by line feeds, without one at the end. -/
def joinLines (lines : List String) : String :=
  "\n".intercalate lines

/-- The text with every carriage return, and the line feed after it, as one line feed. -/
def unifyNewlines : List Char → List Char
  | [] => []
  | '\r' :: '\n' :: rest => '\n' :: unifyNewlines rest
  | c :: rest => (if c = '\r' then '\n' else c) :: unifyNewlines rest

@[simp] theorem unifyNewlines_nil : unifyNewlines [] = [] := rfl

/-- The characters that end a line of an excerpt. -/
def isLineBreak (c : Char) : Bool :=
  c == '\n' || c == '\r' || c == '\x0b' || c == '\x0c' || c == '\x1c' || c == '\x1d' ||
    c == '\x1e' || c == '\x85' || c == '\u2028' || c == '\u2029'

/-- The lines of a text, from the characters of its first line read so far in
reverse. A carriage return and a line feed after it end one line, and a text that
ends with a line break has no empty line after it. -/
def excerptLinesFrom (current : List Char) : List Char → List (List Char)
  | [] => if current.isEmpty then [] else [current.reverse]
  | '\r' :: '\n' :: rest => current.reverse :: excerptLinesFrom [] rest
  | c :: rest =>
    if isLineBreak c then current.reverse :: excerptLinesFrom [] rest
    else excerptLinesFrom (c :: current) rest

/-- The lines of a text as an excerpt shows them. -/
def excerptLines (text : List Char) : List (List Char) :=
  excerptLinesFrom [] text

/-- The lines of a text that line feeds alone end; a final line feed leaves an
empty last line. -/
def feedLines (text : List Char) : List (List Char) :=
  text.splitOn '\n'

end DesignTokens.Text
