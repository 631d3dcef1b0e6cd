import DesignTokens.Text.Hex

/-!
# Texts in settings files

A text stands between double quotes with escapes or between apostrophes without, on
one line between single marks or on several between triple marks.
-/

namespace DesignTokens.Toml

/-- A blank or a tab. -/
def isBlank (c : Char) : Bool :=
  c == ' ' || c == '\t'

/-- A blank, a tab or a line feed. -/
def isBlankOrFeed (c : Char) : Bool :=
  isBlank c || c == '\n'

/-- An ASCII control. -/
def isControl (c : Char) : Bool :=
  c.toNat < 0x20 || c.toNat == 0x7F

/-- A character that may stand in a comment or in a text on one line. -/
def isLineChar (c : Char) : Bool :=
  !isControl c || c == '\t'

/-- A character that may stand in a text on several lines. -/
def isBlockChar (c : Char) : Bool :=
  isLineChar c || c == '\n'

/-- The character that stands after a reverse solidus for another one. -/
def escaped? : Char → Option Char
  | 'b' => some '\x08'
  | 't' => some '\t'
  | 'n' => some '\n'
  | 'f' => some '\x0c'
  | 'r' => some '\r'
  | '"' => some '"'
  | '\\' => some '\\'
  | _ => none

/-- The character of a code point; surrogates have none. -/
def charOf? (code : Nat) : Option Char :=
  if h : code.isValidChar then some (Char.ofNatAux code h) else none

/-- The character that a number of hexadecimal digits write. -/
def readCode? (count : Nat) (s : List Char) : Option (Char × List Char) := do
  let digits := s.take count
  if digits.length < count then none
  let code ← Text.hexNumber? digits
  let c ← charOf? code
  some (c, s.drop count)

/-- What an escape after a reverse solidus stands for. In a text on several lines the
end of a line may be escaped with the white space around it. -/
def readEscape? (block : Bool) (s : List Char) : Option (List Char × List Char) :=
  match s with
  | 'u' :: rest => (readCode? 4 rest).map fun (c, after) => ([c], after)
  | 'U' :: rest => (readCode? 8 rest).map fun (c, after) => ([c], after)
  | c :: rest =>
    match escaped? c with
    | some plain => some ([plain], rest)
    | none =>
      if block && isBlankOrFeed c then
        match s.dropWhile isBlank with
        | [] => some ([], [])
        | '\n' :: after => some ([], after.dropWhile isBlankOrFeed)
        | _ => none
      else none
  | [] => none

/-- The rest of a text with escapes, read in at most `fuel` steps. -/
def readBasic? (block : Bool) : Nat → List Char → Option (List Char × List Char)
  | 0, _ => none
  | fuel + 1, s =>
    match s with
    | [] => none
    | '"' :: rest =>
      if block then
        match rest with
        | '"' :: '"' :: after => some ([], after)
        | _ => (readBasic? block fuel rest).map fun (cs, after) => ('"' :: cs, after)
      else some ([], rest)
    | '\\' :: rest => do
      let (plain, afterEscape) ← readEscape? block rest
      let (cs, after) ← readBasic? block fuel afterEscape
      some (plain ++ cs, after)
    | c :: rest =>
      if (if block then isBlockChar c else isLineChar c) then
        (readBasic? block fuel rest).map fun (cs, after) => (c :: cs, after)
      else none

/-- The rest of a text without escapes on one line. -/
def readPlain? : List Char → Option (List Char × List Char)
  | [] => none
  | '\'' :: rest => some ([], rest)
  | c :: rest =>
    if isLineChar c then (readPlain? rest).map fun (cs, after) => (c :: cs, after) else none

/-- The rest of a text without escapes on several lines. -/
def readPlainBlock? : List Char → Option (List Char × List Char)
  | [] => none
  | '\'' :: '\'' :: '\'' :: rest => some ([], rest)
  | c :: rest =>
    if isBlockChar c then (readPlainBlock? rest).map fun (cs, after) => (c :: cs, after) else none

/-- A text without the line feed that it starts with. -/
def withoutFirstFeed : List Char → List Char
  | '\n' :: rest => rest
  | s => s

/-- One or two more marks after the closing ones belong to the text. -/
def absorbMarks (mark : Char) (found : List Char × List Char) : List Char × List Char :=
  match found with
  | (cs, c :: d :: rest) =>
    if c = mark ∧ d = mark then (cs ++ [mark, mark], rest)
    else if c = mark then (cs ++ [mark], d :: rest)
    else found
  | (cs, [c]) => if c = mark then (cs ++ [mark], []) else found
  | _ => found

/-- A text on one line. -/
def readLineText? (s : List Char) : Option (List Char × List Char) :=
  match s with
  | '"' :: rest => readBasic? false (rest.length + 1) rest
  | '\'' :: rest => readPlain? rest
  | _ => none

/-- A text on one or several lines. -/
def readText? (s : List Char) : Option (List Char × List Char) :=
  match s with
  | '"' :: '"' :: '"' :: rest =>
    (readBasic? true (rest.length + 1) (withoutFirstFeed rest)).map (absorbMarks '"')
  | '\'' :: '\'' :: '\'' :: rest =>
    (readPlainBlock? (withoutFirstFeed rest)).map (absorbMarks '\'')
  | _ => readLineText? s

end DesignTokens.Toml
