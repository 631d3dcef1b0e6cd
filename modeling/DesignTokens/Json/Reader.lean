import DesignTokens.Json.Basic
import DesignTokens.Json.Fault
import DesignTokens.Number.Scan
import DesignTokens.Text.Hex

/-!
# Reading documents

Reading goes from left to right and stops at the first defect, which is reported
with what is left of the text. A name given twice in an object keeps its first
place and its last value.

## Implementation notes

The strings of a document are sequences of characters here. A document may also escape
half of a surrogate pair that stands alone. That code point is no character, and no text
with it can be encoded or written (`Text.CodePoint`). Reading puts `U+FFFD` in its place:
a value with such an escape is not kept as it is but as one that can be written, and two
names that differ in such escapes alone are read as one name.
-/

namespace DesignTokens.Json

/-- A defect and what is left of the text there. -/
structure Halt where
  defect : Defect
  rest : List Char

/-- White space between the parts of a document. -/
def isSpace (c : Char) : Bool :=
  c == ' ' || c == '\t' || c == '\n' || c == '\r'

/-- A text without the white space that it starts with. -/
def skipSpace (s : List Char) : List Char :=
  s.dropWhile isSpace

/-- The character that stands after a reverse solidus for another one. -/
def escaped? : Char → Option Char
  | '"' => some '"'
  | '\\' => some '\\'
  | '/' => some '/'
  | 'b' => some '\x08'
  | 'f' => some '\x0c'
  | 'n' => some '\n'
  | 'r' => some '\r'
  | 't' => some '\t'
  | _ => none

/-- A code unit that starts a surrogate pair. -/
def isHighSurrogate (unit : Nat) : Bool :=
  0xD800 ≤ unit && unit < 0xDC00

/-- A code unit that ends a surrogate pair. -/
def isLowSurrogate (unit : Nat) : Bool :=
  0xDC00 ≤ unit && unit < 0xE000

/-- The character that a code unit stands for alone. A surrogate stands for none and is
replaced, though the document has the code point itself. -/
def unitChar (unit : Nat) : Char :=
  if isHighSurrogate unit || isLowSurrogate unit then '\uFFFD' else Char.ofNat unit

/-- The character that a surrogate pair stands for. -/
def pairChar (high low : Nat) : Char :=
  Char.ofNat (0x10000 + (high - 0xD800) * 0x400 + (low - 0xDC00))

/-- The characters of a string up to its closing quote, where `start` is the text
from the opening quote on. An escape of four digits needs a character after it. -/
def readChars (start : List Char) : List Char → Except Halt (List Char × List Char)
  | [] => .error ⟨.unterminatedString, start⟩
  | '"' :: rest => .ok ([], rest)
  | ['\\'] => .error ⟨.unterminatedString, start⟩
  | '\\' :: 'u' :: a :: b :: c :: d :: rest =>
    match Text.hexNumber? [a, b, c, d], rest with
    | none, _ => .error ⟨.badUnicodeEscape, 'u' :: a :: b :: c :: d :: rest⟩
    | some _, [] => .error ⟨.badUnicodeEscape, 'u' :: a :: b :: c :: d :: rest⟩
    | some unit, '\\' :: 'u' :: e :: f :: g :: h :: after =>
      match Text.hexNumber? [e, f, g, h] with
      | some low =>
        if isHighSurrogate unit && isLowSurrogate low && !after.isEmpty then
          (readChars start after).map fun (cs, s) => (pairChar unit low :: cs, s)
        else
          (readChars start ('\\' :: 'u' :: e :: f :: g :: h :: after)).map
            fun (cs, s) => (unitChar unit :: cs, s)
      | none =>
        (readChars start ('\\' :: 'u' :: e :: f :: g :: h :: after)).map
          fun (cs, s) => (unitChar unit :: cs, s)
    | some unit, rest =>
      (readChars start rest).map fun (cs, s) => (unitChar unit :: cs, s)
  | '\\' :: 'u' :: rest => .error ⟨.badUnicodeEscape, 'u' :: rest⟩
  | '\\' :: c :: rest =>
    match escaped? c with
    | some plain => (readChars start rest).map fun (cs, s) => (plain :: cs, s)
    | none => .error ⟨.unknownEscape, '\\' :: c :: rest⟩
  | c :: rest =>
    if c.toNat < 0x20 then .error ⟨.controlCharacter, c :: rest⟩
    else (readChars start rest).map fun (cs, s) => (c :: cs, s)

/-- The characters that a literal name consists of, and what it stands for. -/
def literals : List (List Char × Json) := [
  (['n', 'u', 'l', 'l'], .null),
  (['t', 'r', 'u', 'e'], .bool true),
  (['f', 'a', 'l', 's', 'e'], .bool false),
  (['N', 'a', 'N'], .number (.real .nan)),
  (['I', 'n', 'f', 'i', 'n', 'i', 't', 'y'], .number (.real (.infinite false))),
  (['-', 'I', 'n', 'f', 'i', 'n', 'i', 't', 'y'], .number (.real (.infinite true)))]

/-- The literal name that a text starts with. -/
def readLiteral? (s : List Char) : Option (Json × List Char) :=
  literals.findSome? fun (name, value) =>
    if name.isPrefixOf s then some (value, s.drop name.length) else none

/-- A literal name or a number, whose digits are limited if it is whole. -/
def readScalar (s : List Char) : Except Halt (Json × List Char) :=
  match readLiteral? s with
  | some found => .ok found
  | none =>
    match Number.scan s with
    | some (.integer n, rest) =>
      let count := Number.wholeDigits s
      if count ≤ Number.digitLimit then .ok (.number (.integer n), rest)
      else .error ⟨.tooManyDigits count, s⟩
    | some (x, rest) => .ok (.number x, rest)
    | none => .error ⟨.valueExpected, s⟩

mutual

/-- A value at the start of a text, read in at most `fuel` nested steps. A step into
an array and the next one into its first item may share one character, so twice the
length of the text is enough. -/
def readValue : Nat → List Char → Except Halt (Json × List Char)
  | 0, s => .error ⟨.valueExpected, s⟩
  | fuel + 1, s =>
    match s with
    | '"' :: rest => (readChars s rest).map fun (cs, after) => (.string (String.ofList cs), after)
    | '\x7b' :: rest =>
      match skipSpace rest with
      | '\x7d' :: after => .ok (.object [], after)
      | inside =>
        (readMembers fuel inside).map fun (pairs, after) =>
          (.object (Entries.ofPairs pairs), after)
    | '[' :: rest =>
      match skipSpace rest with
      | ']' :: after => .ok (.array [], after)
      | inside => (readItems fuel inside).map fun (items, after) => (.array items, after)
    | _ => readScalar s

/-- The members of an object from the first quote of a name on. -/
def readMembers : Nat → List Char → Except Halt (List (String × Json) × List Char)
  | 0, s => .error ⟨.nameExpected, s⟩
  | fuel + 1, s =>
    match s with
    | '"' :: rest => do
      let (name, afterName) ← readChars s rest
      match skipSpace afterName with
      | ':' :: afterColon =>
        let (value, afterValue) ← readValue fuel (skipSpace afterColon)
        let member := (String.ofList name, value)
        match skipSpace afterValue with
        | '\x7d' :: after => .ok ([member], after)
        | ',' :: more =>
          let (others, after) ← readMembers fuel (skipSpace more)
          .ok (member :: others, after)
        | stopped => .error ⟨.commaExpected, stopped⟩
      | stopped => .error ⟨.colonExpected, stopped⟩
    | _ => .error ⟨.nameExpected, s⟩

/-- The items of an array from the first one on. -/
def readItems : Nat → List Char → Except Halt (List Json × List Char)
  | 0, s => .error ⟨.valueExpected, s⟩
  | fuel + 1, s => do
    let (item, afterItem) ← readValue fuel s
    match skipSpace afterItem with
    | ']' :: after => .ok ([item], after)
    | ',' :: more =>
      let (others, after) ← readItems fuel (skipSpace more)
      .ok (item :: others, after)
    | stopped => .error ⟨.commaExpected, stopped⟩

end

/-- A whole document: one value with white space around it. -/
def readDocument (text : List Char) : Except Halt Json :=
  match text with
  | '\uFEFF' :: _ => .error ⟨.byteOrderMark, text⟩
  | _ => do
    let (value, after) ← readValue (2 * text.length + 2) (skipSpace text)
    match skipSpace after with
    | [] => .ok value
    | stopped => .error ⟨.extraData, stopped⟩

/-- The value that a text holds, or its first fault. -/
def read (text : List Char) : Except Fault Json :=
  match readDocument text with
  | .ok value => .ok value
  | .error halt => .error ⟨halt.defect, text.length - halt.rest.length⟩

end DesignTokens.Json
