import DesignTokens.Shape.Basic

/-!
# Parts that were checked before

A record may be built from parts that have been checked already. A checked record is taken as
it is, in whatever lists and mappings it stands; the values of a document among the parts are
checked as any others.
-/

namespace DesignTokens.Shape

/-- A value of a document, a checked record, or a list or mapping of such parts. -/
inductive Given (α : Type) where
  | plain (value : Json)
  | record (checked : α)
  | list (items : List (Given α))
  | mapping (members : List (String × Given α))

namespace Given

variable {α β : Type}

/-- A string. -/
def string : Given α → Checked String
  | .plain value => Shape.string value
  | _ => problem .notString

/-- A number in its stored form. -/
def number : Given α → Checked Number
  | .plain value => Shape.number value
  | _ => .error [⟨["int"], .notInteger⟩, ⟨["float"], .notFraction⟩]

/-- A record, whose fields are checked unless that has been done. -/
def recordOf (check : Entries Json → Checked α) : Given α → Checked α
  | .record checked => .ok checked
  | .plain value => Shape.record check value
  | _ => problem .notRecord

/-- The items of a list. -/
def items? : Given α → Option (List (Given α))
  | .list items => some items
  | .plain (.array items) => some (items.map .plain)
  | _ => none

/-- The members of a mapping. -/
def members? : Given α → Option (Entries (Given α))
  | .mapping members => some members
  | .plain (.object members) => some (Entries.mapValues .plain members)
  | _ => none

/-- A list whose items are checked; anything else is reported as the given problem. -/
def items (other : Problem) (check : Given α → Checked β) (given : Given α) :
    Checked (List β) :=
  match given.items? with
  | some parts => itemsFrom 0 check parts
  | none => problem other

/-- A mapping whose values are checked. -/
def mappingOf (check : Given α → Checked β) (given : Given α) : Checked (Entries β) :=
  match given.members? with
  | some members => values check members
  | none => problem .notMapping

/-- Named parts as a mapping. -/
def ofEntries (part : β → Given α) (entries : Entries β) : Given α :=
  .mapping (entries.mapValues part)

end Given

end DesignTokens.Shape
