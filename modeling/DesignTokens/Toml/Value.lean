import DesignTokens.Entries

/-!
# TOML values

Settings files are read for their texts and their tables. Numbers and times are
recognised, but what they stand for is not needed.
-/

namespace DesignTokens.Toml

/-- A value of a settings file. -/
inductive Value where
  | text (value : String)
  | integer
  | fraction
  | bool (value : Bool)
  | date
  | time
  | dateTime
  | array (items : List Value)
  | table (entries : List (String × Value))
  deriving Repr, Inhabited

namespace Value

/-- The name of a value's type in messages. -/
def typeName : Value → String
  | .text _ => "str"
  | .integer => "int"
  | .fraction => "float"
  | .bool _ => "bool"
  | .date => "datetime.date"
  | .time => "datetime.time"
  | .dateTime => "datetime.datetime"
  | .array _ => "list"
  | .table _ => "dict"

/-- Whether a value is a table or an array. -/
def isContainer : Value → Bool
  | .array _ => true
  | .table _ => true
  | _ => false

/-- Whether a value is a given text. -/
def isText (text : String) : Value → Bool
  | .text value => value == text
  | _ => false

end Value

/-- A table of a settings file. -/
abbrev Table := Entries Value

namespace Table

/-- Change the table that names lead to from a table; missing tables are made on the
way. Through an array of tables the way leads on to its last table, if `intoArrays`
allows. -/
def change (intoArrays : Bool) (f : Table → Option Table) : List String → Table → Option Table
  | [], table => f table
  | name :: rest, table =>
    match table.get? name with
    | none => do
      let inner ← change intoArrays f rest []
      some (table.put name (.table inner))
    | some (.table inner) => do
      let inner ← change intoArrays f rest inner
      some (table.put name (.table inner))
    | some (.array items) =>
      match intoArrays, items.getLast? with
      | true, some (.table inner) => do
        let inner ← change intoArrays f rest inner
        some (table.put name (.array (items.dropLast ++ [.table inner])))
      | _, _ => none
    | some _ => none

/-- Give a new name a value. -/
def define? (name : String) (value : Value) (table : Table) : Option Table :=
  if table.has name then none else some (table.put name value)

/-- Add an empty table to an array of tables, which is made if it is missing. -/
def extend? (name : String) (table : Table) : Option Table :=
  match table.get? name with
  | none => some (table.put name (.array [.table []]))
  | some (.array items) => some (table.put name (.array (items ++ [.table []])))
  | some _ => none

end Table

end DesignTokens.Toml
