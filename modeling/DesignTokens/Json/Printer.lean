import DesignTokens.Json.Basic
import DesignTokens.Text.Hex

/-!
# Writing documents

A value is written with one member or item a line. Every line after the first
starts with a margin and then with the indentation of its depth. Strings are
written either as they are or in ASCII alone.
-/

namespace DesignTokens.Json

/-- A code unit as an escape. -/
def unitEscape (unit : Nat) : List Char :=
  '\\' :: 'u' :: Text.hexDigits 4 unit

/-- A character outside ASCII as one escape, or as two for a surrogate pair. -/
def unicodeEscape (c : Char) : List Char :=
  if c.toNat < 0x10000 then unitEscape c.toNat
  else
    let rest := c.toNat - 0x10000
    unitEscape (0xD800 + rest / 0x400) ++ unitEscape (0xDC00 + rest % 0x400)

/-- One character of a string literal. -/
def literalChar (ascii : Bool) (c : Char) : List Char :=
  match c with
  | '"' => ['\\', '"']
  | '\\' => ['\\', '\\']
  | '\n' => ['\\', 'n']
  | '\r' => ['\\', 'r']
  | '\t' => ['\\', 't']
  | '\x0c' => ['\\', 'f']
  | '\x08' => ['\\', 'b']
  | _ =>
    if c.toNat < 0x20 then unitEscape c.toNat
    else if ascii && 0x7F ≤ c.toNat then unicodeEscape c
    else [c]

/-- A string between quotes. -/
def stringLiteral (ascii : Bool) (text : String) : List Char :=
  '"' :: text.toList.flatMap (literalChar ascii) ++ ['"']

/-- A string between quotes, in ASCII alone. -/
def asciiLiteral (text : String) : String :=
  String.ofList (stringLiteral true text)

/-- A number that keeps to the limit of digits, as a document writes it. -/
def numberLiteral : Number → List Char
  | .real (.infinite false) => ['I', 'n', 'f', 'i', 'n', 'i', 't', 'y']
  | .real (.infinite true) => ['-', 'I', 'n', 'f', 'i', 'n', 'i', 't', 'y']
  | .real .nan => ['N', 'a', 'N']
  | x => x.text.toList

/-- How a document is laid out: what every line after the first starts with, and
the number of blanks for each level of depth. -/
structure Layout where
  margin : List Char
  unit : Nat

/-- The start of a new line at a depth. -/
def Layout.newLine (layout : Layout) (depth : Nat) : List Char :=
  '\n' :: layout.margin ++ List.replicate (layout.unit * depth) ' '

mutual

/-- A value at a depth. -/
def write (layout : Layout) (depth : Nat) : Json → List Char
  | .null => ['n', 'u', 'l', 'l']
  | .bool true => ['t', 'r', 'u', 'e']
  | .bool false => ['f', 'a', 'l', 's', 'e']
  | .number x => numberLiteral x
  | .string s => stringLiteral false s
  | .array [] => ['[', ']']
  | .array (item :: rest) =>
    '[' :: layout.newLine (depth + 1) ++ write layout (depth + 1) item ++
      writeItems layout (depth + 1) rest ++ layout.newLine depth ++ [']']
  | .object [] => ['\x7b', '\x7d']
  | .object ((name, value) :: rest) =>
    '\x7b' :: layout.newLine (depth + 1) ++ stringLiteral false name ++ ':' :: ' ' ::
      write layout (depth + 1) value ++ writeMembers layout (depth + 1) rest ++
      layout.newLine depth ++ ['\x7d']

/-- The items after the first one. -/
def writeItems (layout : Layout) (depth : Nat) : List Json → List Char
  | [] => []
  | item :: rest =>
    ',' :: layout.newLine depth ++ write layout depth item ++ writeItems layout depth rest

/-- The members after the first one. -/
def writeMembers (layout : Layout) (depth : Nat) : List (String × Json) → List Char
  | [] => []
  | (name, value) :: rest =>
    ',' :: layout.newLine depth ++ stringLiteral false name ++ ':' :: ' ' ::
      write layout depth value ++ writeMembers layout depth rest

end

/-- A value as a literal whose lines after the first start with a margin and whose
levels are indented by a number of blanks. -/
def literalWith (margin : String) (unit : Nat) (value : Json) : String :=
  String.ofList (write ⟨margin.toList, unit⟩ 0 value)

/-- A value as a literal indented by two blanks a level. -/
def literal (margin : String) (value : Json) : String :=
  literalWith margin 2 value

end DesignTokens.Json
