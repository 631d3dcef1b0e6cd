import DesignTokens.Toml.Scalar
import DesignTokens.Toml.Text

/-!
# Settings files

A settings file is a sequence of statements, one a line: a pair of a key and a value,
a table header, or a header of an array of tables. A table may be declared once, and
what a value in braces or brackets defines cannot be changed later.
-/

namespace DesignTokens.Toml

/-- A character of a key without quotes. -/
def isBareKeyChar (c : Char) : Bool :=
  c.isAlphanum || c == '-' || c == '_'

/-- One part of a key. -/
def readKeyPart? (s : List Char) : Option (String × List Char) :=
  match s with
  | [] => none
  | c :: _ =>
    if isBareKeyChar c then
      some (String.ofList (s.takeWhile isBareKeyChar), s.dropWhile isBareKeyChar)
    else (readLineText? s).map fun (cs, after) => (String.ofList cs, after)

/-- The parts of a key, which dots separate, and what follows the blanks after it. -/
def readKey? : Nat → List Char → Option (List String × List Char)
  | 0, _ => none
  | fuel + 1, s => do
    let (part, afterPart) ← readKeyPart? s
    match afterPart.dropWhile isBlank with
    | '.' :: rest =>
      let (others, after) ← readKey? fuel (rest.dropWhile isBlank)
      some (part :: others, after)
    | after => some ([part], after)

/-- What follows a comment, if there is one. -/
def skipComment? (s : List Char) : Option (List Char) :=
  match s with
  | '#' :: rest =>
    if (rest.takeWhile (· ≠ '\n')).all isLineChar then some (rest.dropWhile (· ≠ '\n')) else none
  | _ => some s

/-- What follows white space and comments between the items of an array. -/
def skipBetweenItems? : Nat → List Char → Option (List Char)
  | 0, s => some s
  | fuel + 1, s => do
    let rest ← skipComment? (s.dropWhile isBlankOrFeed)
    if rest.length = s.length then some rest else skipBetweenItems? fuel rest

/-- Whether names start with other names. -/
def isWithin (outer inner : List String) : Bool :=
  outer.isPrefixOf inner

mutual

/-- A value, read in at most `fuel` nested steps. -/
def readValue : Nat → List Char → Except Fault (Value × List Char)
  | 0, _ => .error .malformed
  | fuel + 1, s =>
    match s with
    | '[' :: rest => do
      let inside ← required (skipBetweenItems? (rest.length + 1) rest)
      match inside with
      | ']' :: after => .ok (.array [], after)
      | _ =>
        let (items, after) ← readItems fuel inside
        .ok (.array items, after)
    | '\x7b' :: rest =>
      match rest.dropWhile isBlank with
      | '\x7d' :: after => .ok (.table [], after)
      | inside => do
        let (table, after) ← readPairs fuel [] [] inside
        .ok (.table table, after)
    | '"' :: _ => do
      let (cs, after) ← required (readText? s)
      .ok (.text (String.ofList cs), after)
    | '\'' :: _ => do
      let (cs, after) ← required (readText? s)
      .ok (.text (String.ofList cs), after)
    | _ => readScalar s

/-- The items of an array from the first one on. A comma may follow the last one. -/
def readItems : Nat → List Char → Except Fault (List Value × List Char)
  | 0, _ => .error .malformed
  | fuel + 1, s => do
    let (item, afterItem) ← readValue fuel s
    let next ← required (skipBetweenItems? (afterItem.length + 1) afterItem)
    match next with
    | ']' :: after => .ok ([item], after)
    | ',' :: rest =>
      let inside ← required (skipBetweenItems? (rest.length + 1) rest)
      match inside with
      | ']' :: after => .ok ([item], after)
      | _ =>
        let (others, after) ← readItems fuel inside
        .ok (item :: others, after)
    | _ => .error .malformed

/-- The pairs of a table in braces from the first one on, put into the table of the
pairs before them. What lies within the `closed` keys cannot be changed. -/
def readPairs : Nat → List (List String) → Table → List Char →
    Except Fault (Table × List Char)
  | 0, _, _, _ => .error .malformed
  | fuel + 1, closed, table, s => do
    let (key, afterKey) ← required (readKey? (s.length + 1) s)
    match afterKey with
    | '=' :: rest =>
      let (value, afterValue) ← readValue fuel (rest.dropWhile isBlank)
      if closed.any fun outer => isWithin outer key then .error .malformed
      else
        let stem := key.getLast?.getD ""
        let table ← required (table.change false (Table.define? stem value) key.dropLast)
        match afterValue.dropWhile isBlank with
        | '\x7d' :: after => .ok (table, after)
        | ',' :: more =>
          let closed := if value.isContainer then key :: closed else closed
          readPairs fuel closed table (more.dropWhile isBlank)
        | _ => .error .malformed
    | _ => .error .malformed

end

/-- What has been read of a settings file: its table, the header in force, the keys
that cannot be declared as tables, those that will be when the next header comes, and
the keys within which nothing can be changed. -/
structure Progress where
  table : Table
  header : List String
  declared : List (List String)
  pending : List (List String)
  closed : List (List String)

namespace Progress

/-- The start of a file. -/
def initial : Progress := ⟨[], [], [], [], []⟩

/-- Whether a key lies within a closed one. -/
def isClosed (progress : Progress) (key : List String) : Bool :=
  progress.closed.any fun outer => isWithin outer key

/-- Whether a key is declared. -/
def isDeclared (progress : Progress) (key : List String) : Bool :=
  progress.declared.contains key

/-- A header comes: the pending keys are declared. -/
def settle (progress : Progress) : Progress :=
  { progress with declared := progress.pending ++ progress.declared, pending := [] }

/-- Forget what is known of the keys within a key. -/
def forget (key : List String) (progress : Progress) : Progress :=
  { progress with
    declared := progress.declared.filter fun inner => !isWithin key inner
    closed := progress.closed.filter fun inner => !isWithin key inner }

/-- Declare a table. -/
def openTable? (key : List String) (progress : Progress) : Option Progress := do
  if progress.isDeclared key || progress.isClosed key then none
  let table ← progress.table.change true some key
  some { progress with table, header := key, declared := key :: progress.declared }

/-- Add a table to an array of tables. -/
def openItem? (key : List String) (progress : Progress) : Option Progress := do
  if progress.isClosed key then none
  let progress := progress.forget key
  let stem := key.getLast?.getD ""
  let table ← progress.table.change true (Table.extend? stem) key.dropLast
  some { progress with table, header := key, declared := key :: progress.declared }

/-- Define a value below the header in force. -/
def define? (key : List String) (value : Value) (progress : Progress) : Option Progress := do
  let onTheWay := (List.range (key.length - 1)).map fun n => progress.header ++ key.take (n + 1)
  if onTheWay.any progress.isDeclared then none
  let parent := progress.header ++ key.dropLast
  if progress.isClosed parent then none
  let stem := key.getLast?.getD ""
  let table ← progress.table.change true (Table.define? stem value) parent
  let closed :=
    if value.isContainer then (progress.header ++ key) :: progress.closed else progress.closed
  some { progress with table, closed, pending := onTheWay ++ progress.pending }

end Progress

/-- A pair of a key and a value, and what follows it. -/
def readPair (s : List Char) : Except Fault ((List String × Value) × List Char) := do
  let (key, afterKey) ← required (readKey? (s.length + 1) s)
  match afterKey with
  | '=' :: rest =>
    let (value, after) ← readValue (2 * rest.length + 2) (rest.dropWhile isBlank)
    .ok ((key, value), after)
  | _ => .error .malformed

/-- The header of an array of tables after its opening brackets. -/
def readItemHeader? (progress : Progress) (s : List Char) : Option (Progress × List Char) := do
  let (key, afterKey) ← readKey? (s.length + 1) (s.dropWhile isBlank)
  let progress ← progress.settle.openItem? key
  match afterKey with
  | ']' :: ']' :: after => some (progress, after)
  | _ => none

/-- The header of a table after its opening bracket. -/
def readTableHeader? (progress : Progress) (s : List Char) : Option (Progress × List Char) := do
  let (key, afterKey) ← readKey? (s.length + 1) (s.dropWhile isBlank)
  let progress ← progress.settle.openTable? key
  match afterKey with
  | ']' :: after => some (progress, after)
  | _ => none

/-- One statement, and what follows it. -/
def readStatement (progress : Progress) (s : List Char) :
    Except Fault (Progress × List Char) :=
  match s with
  | '[' :: '[' :: rest => required (readItemHeader? progress rest)
  | '[' :: rest => required (readTableHeader? progress rest)
  | c :: _ =>
    if isBareKeyChar c || c == '"' || c == '\'' then do
      let ((key, value), after) ← readPair s
      let progress ← required (progress.define? key value)
      .ok (progress, after)
    else if c == '#' then .ok (progress, s)
    else .error .malformed
  | [] => .ok (progress, [])

/-- The statements of a file, read in at most `fuel` steps. -/
def readStatements : Nat → Progress → List Char → Except Fault Progress
  | 0, _, _ => .error .malformed
  | fuel + 1, progress, s =>
    match s.dropWhile isBlank with
    | [] => .ok progress
    | '\n' :: rest => readStatements fuel progress rest
    | line => do
      let (progress, afterStatement) ← readStatement progress line
      let rest ← required (skipComment? (afterStatement.dropWhile isBlank))
      match rest with
      | [] => .ok progress
      | '\n' :: next => readStatements fuel progress next
      | _ => .error .malformed

/-- The table that a settings file with unified line ends holds. -/
def read (text : List Char) : Except Fault Table :=
  (readStatements (text.length + 1) .initial text).map Progress.table

end DesignTokens.Toml
