/-!
# Paths

A path is an anchor and a list of names. Empty names and the name `.` vanish when a
path is read; the name `..` stays, and is followed only when files are looked up.
-/

namespace DesignTokens

/-- What a path starts from: the directory of the moment, the root, or the root
written with two slashes. -/
inductive Anchor where
  | here
  | root
  | doubleRoot
  deriving DecidableEq, Repr, Inhabited

/-- A path. -/
structure Path where
  anchor : Anchor
  parts : List String
  deriving DecidableEq, Repr, Inhabited

namespace Path

/-- The text of an anchor. -/
def anchorText : Anchor → String
  | .here => ""
  | .root => "/"
  | .doubleRoot => "//"

/-- The anchor that a text starts with: exactly two slashes are kept apart from one
and from more. -/
def anchorOf : List Char → Anchor
  | '/' :: '/' :: '/' :: _ => .root
  | '/' :: '/' :: _ => .doubleRoot
  | '/' :: _ => .root
  | _ => .here

/-- The path that a text writes. -/
def ofString (text : String) : Path where
  anchor := anchorOf text.toList
  parts := ((text.toList.splitOn '/').map String.ofList).filter fun name =>
    name ≠ "" ∧ name ≠ "."

/-- The text of a path. -/
def toString (path : Path) : String :=
  if path.anchor = .here ∧ path.parts = [] then "."
  else anchorText path.anchor ++ "/".intercalate path.parts

/-- A path below another one; a path with an anchor of its own stands alone. -/
def join (parent child : Path) : Path :=
  if child.anchor = .here then { parent with parts := parent.parts ++ child.parts } else child

/-- A path below another one, given as a text. -/
def child (parent : Path) (text : String) : Path :=
  parent.join (ofString text)

/-- The path without its last name. -/
def parent (path : Path) : Path :=
  { path with parts := path.parts.dropLast }

/-- The last name of a path. -/
def name (path : Path) : String :=
  path.parts.getLast?.getD ""

/-- Whether a name of a path holds the character that ends names in the system, so that
no such file can be asked for. -/
def hasNul (path : Path) : Bool :=
  path.parts.any fun name => name.toList.contains '\x00'

/-- The extension of the last name, from its last dot on. A dot at the start or at
the end of the name starts no extension. -/
def extension (path : Path) : List Char :=
  let letters := path.name.toList
  let after := letters.reverse.takeWhile (· ≠ '.')
  if after.length + 1 < letters.length ∧ after ≠ [] then '.' :: after.reverse else []

end Path

end DesignTokens
