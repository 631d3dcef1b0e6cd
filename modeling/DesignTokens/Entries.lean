/-!
# Ordered entries

A mapping from names to values that remembers the order in which its names were
first given. A name given again keeps its place and takes the new value.
-/

namespace DesignTokens

/-- Named values in the order of their first appearance. -/
abbrev Entries (α : Type) := List (String × α)

namespace Entries

variable {α β : Type}

/-- The value of a name. -/
def get? (name : String) : Entries α → Option α
  | [] => none
  | (key, value) :: rest => if key = name then some value else get? name rest

/-- Whether a name has a value. -/
def has (name : String) (entries : Entries α) : Bool :=
  (get? name entries).isSome

/-- Give a name a value, in its place if it has one and at the end otherwise. -/
def put (name : String) (value : α) : Entries α → Entries α
  | [] => [(name, value)]
  | (key, old) :: rest =>
    if key = name then (key, value) :: rest else (key, old) :: put name value rest

/-- Change the value of a name, which starts from a default if it has none. -/
def update (name : String) (default : α) (change : α → α) (entries : Entries α) : Entries α :=
  put name (change ((get? name entries).getD default)) entries

/-- The entries that a list of pairs gives, the last value of each name counting. -/
def ofPairs (pairs : List (String × α)) : Entries α :=
  pairs.foldl (fun entries pair => put pair.1 pair.2 entries) []

/-- The names in order. -/
def names (entries : Entries α) : List String :=
  List.map Prod.fst entries

/-- The entries with every value changed. -/
def mapValues (f : α → β) (entries : Entries α) : Entries β :=
  List.map (fun entry => (entry.1, f entry.2)) entries

@[simp] theorem get?_nil (name : String) : get? name ([] : Entries α) = none := rfl

@[simp] theorem get?_put_self (name : String) (value : α) (entries : Entries α) :
    get? name (put name value entries) = some value := by
  induction entries with
  | nil => simp [put, get?]
  | cons entry rest ih =>
    obtain ⟨key, old⟩ := entry
    by_cases h : key = name <;> simp [put, get?, h, ih]

theorem get?_put_of_ne {name other : String} (h : other ≠ name) (value : α)
    (entries : Entries α) : get? other (put name value entries) = get? other entries := by
  induction entries with
  | nil => simp [put, get?, Ne.symm h]
  | cons entry rest ih =>
    obtain ⟨key, old⟩ := entry
    by_cases hk : key = name
    · subst hk
      simp [put, get?, Ne.symm h]
    · rw [put, if_neg hk, get?, get?, ih]

theorem names_put (name : String) (value : α) (entries : Entries α) :
    names (put name value entries) =
      if has name entries then names entries else names entries ++ [name] := by
  induction entries with
  | nil => simp [put, names, has]
  | cons entry rest ih =>
    obtain ⟨key, old⟩ := entry
    by_cases h : key = name
    · simp [put, has, get?, names, h]
    · have tail : names (put name value rest) =
          if has name rest then names rest else names rest ++ [name] := ih
      have more : has name ((key, old) :: rest) = has name rest := by simp [has, get?, h]
      rw [put, if_neg h, more]
      by_cases present : has name rest <;> simp_all [names]

@[simp] theorem names_mapValues (f : α → β) (entries : Entries α) :
    names (mapValues f entries) = names entries := by
  simp [names, mapValues]

end Entries

end DesignTokens
