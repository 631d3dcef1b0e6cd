import DesignTokens.Json.Printer
import DesignTokens.Text.Identifier

/-!
# Names in scripts

A property is named in an object literal and reached from an object by its bare
name where that name is an identifier of ASCII letters, digits, low lines and
dollar signs, and by a quoted name otherwise. Constants get a name from which the
characters outside identifiers are dropped.
-/

namespace DesignTokens.Script

/-- A character that a bare name may start with. -/
def startsBareName (c : Char) : Bool :=
  c.isAlpha || c == '_' || c == '$'

/-- A character that a bare name may go on with. -/
def continuesBareName (c : Char) : Bool :=
  c.isAlphanum || c == '_' || c == '$'

/-- A name that needs no quotes; one line feed at its end is let through. -/
def isBareName (name : List Char) : Bool :=
  match name with
  | [] => false
  | c :: rest =>
    let body := if rest.getLast? = some '\n' then rest.dropLast else rest
    startsBareName c && body.all continuesBareName

/-- The name of a property in an object literal. -/
def propertyName (name : String) : String :=
  if isBareName name.toList then name else Json.asciiLiteral name

/-- The access of one property. -/
def propertyAccess (name : String) : String :=
  if isBareName name.toList then "." ++ name else "[" ++ Json.asciiLiteral name ++ "]"

/-- The access of a property through a path of names. -/
def accessChain (names : List String) : String :=
  String.join (names.map propertyAccess)

/-- A name without the characters that cannot stand in an identifier. -/
def identifier (name : String) : String :=
  String.ofList (name.toList.filter fun c => c == '$' || Text.continuesIdentifier c)

end DesignTokens.Script
