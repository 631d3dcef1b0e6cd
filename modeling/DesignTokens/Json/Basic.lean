import DesignTokens.Entries
import DesignTokens.Number.Basic

/-!
# JSON values

A document is a value whose objects keep the order of their names.
-/

namespace DesignTokens

/-- A JSON value. -/
inductive Json where
  | null
  | bool (value : Bool)
  | number (value : Number)
  | string (value : String)
  | array (items : List Json)
  | object (members : List (String × Json))
  deriving Repr, Inhabited

namespace Json

/-- The name of a value's type in messages. -/
def typeName : Json → String
  | .null => "NoneType"
  | .bool _ => "bool"
  | .number (.integer _) => "int"
  | .number (.real _) => "float"
  | .string _ => "str"
  | .array _ => "list"
  | .object _ => "dict"

/-- The members of an object. -/
def members? : Json → Option (Entries Json)
  | .object members => some members
  | _ => none

/-- Whether a value stands for nothing: null, false, zero, or an empty string,
array or object. -/
def isVacant : Json → Bool
  | .null => true
  | .bool b => !b
  | .number x => x.isZero
  | .string s => s.isEmpty
  | .array items => items.isEmpty
  | .object members => members.isEmpty

/-- An object of strings. -/
def ofStrings (entries : Entries String) : Json :=
  .object (entries.mapValues .string)

end Json

end DesignTokens
