import DesignTokens.Json.Basic
import DesignTokens.Number.Scan

/-!
# Checking the shape of values

A value is checked against the shape of a record field by field. A check does not
stop at the first issue: it collects the issues of all fields in their order, each
with the path from the checked value to the place of the issue.
-/

namespace DesignTokens.Shape

/-- What is wrong with a value at one place. -/
inductive Problem where
  | missing
  | notString
  | notInteger
  | notFraction
  | unreadableInteger
  | unreadableFraction
  | notMapping
  | notRecord
  | notList
  | notSequence
  deriving DecidableEq, Repr

/-- The code of a problem. -/
def Problem.code : Problem → String
  | .missing => "missing"
  | .notString => "string_type"
  | .notInteger => "int_type"
  | .notFraction => "float_type"
  | .unreadableInteger => "int_parsing"
  | .unreadableFraction => "float_parsing"
  | .notMapping => "dict_type"
  | .notRecord => "model_type"
  | .notList => "list_type"
  | .notSequence => "tuple_type"

/-- A problem and the path to it. -/
structure Issue where
  path : List String
  problem : Problem
  deriving DecidableEq, Repr

/-- A checked value, or all issues found. -/
abbrev Checked (α : Type) := Except (List Issue) α

variable {α β : Type}

/-- A single issue at the checked value itself. -/
def problem (p : Problem) : Checked α :=
  .error [⟨[], p⟩]

/-- A check of the part of a value that a name leads to. -/
def below (name : String) : Checked α → Checked α
  | .ok value => .ok value
  | .error issues => .error (issues.map fun issue => { issue with path := name :: issue.path })

/-- Two checks side by side; the issues of both are collected. -/
def both (f : Checked (α → β)) (x : Checked α) : Checked β :=
  match f, x with
  | .ok f, .ok x => .ok (f x)
  | .ok _, .error issues => .error issues
  | .error issues, .ok _ => .error issues
  | .error first, .error second => .error (first ++ second)

/-- A string. -/
def string : Json → Checked String
  | .string s => .ok s
  | _ => problem .notString

/-- A number, which may be given as a truth value or as a text, in its stored form. -/
def number : Json → Checked Number
  | .number x => .ok x.normalize
  | .bool b => .ok (.integer (if b then 1 else 0))
  | .string s =>
    match Number.ofText? s with
    | some x => .ok x.normalize
    | none => .error [⟨["int"], .unreadableInteger⟩, ⟨["float"], .unreadableFraction⟩]
  | _ => .error [⟨["int"], .notInteger⟩, ⟨["float"], .notFraction⟩]

/-- The value of the first of several names that a record gives. -/
def given? (names : List String) (record : Entries β) : Option β :=
  names.findSome? fun name => record.get? name

/-- A field that a record must give, under a name or an alternative one. -/
def field (name : String) (others : List String) (check : β → Checked α)
    (record : Entries β) : Checked α :=
  match given? (name :: others) record with
  | some value => below name (check value)
  | none => below name (problem .missing)

/-- A field that a record may leave out. -/
def optionalField (name : String) (others : List String) (default : α)
    (check : β → Checked α) (record : Entries β) : Checked α :=
  match given? (name :: others) record with
  | some value => below name (check value)
  | none => .ok default

/-- The values of a mapping, each checked under its name. -/
def values (check : β → Checked α) : List (String × β) → Checked (Entries α)
  | [] => .ok []
  | (name, value) :: rest =>
    both ((below name (check value)).map fun x => ((name, x) :: ·)) (values check rest)

/-- A mapping whose values are checked. -/
def mapping (check : Json → Checked α) : Json → Checked (Entries α)
  | .object members => values check members
  | _ => problem .notMapping

/-- The items of a list, each checked under its position. -/
def itemsFrom (position : Nat) (check : β → Checked α) : List β → Checked (List α)
  | [] => .ok []
  | item :: rest =>
    both ((below (toString position) (check item)).map fun x => (x :: ·))
      (itemsFrom (position + 1) check rest)

/-- A list whose items are checked; anything else is reported as the given problem. -/
def items (other : Problem) (check : Json → Checked α) : Json → Checked (List α)
  | .array list => itemsFrom 0 check list
  | _ => problem other

/-- A record whose fields are checked. -/
def record (check : Entries Json → Checked α) : Json → Checked α
  | .object members => check members
  | _ => problem .notRecord

@[simp] theorem both_ok (f : α → β) (x : α) : both (.ok f) (.ok x) = .ok (f x) := rfl

@[simp] theorem below_ok (name : String) (x : α) : below name (.ok x) = .ok x := rfl

end DesignTokens.Shape
