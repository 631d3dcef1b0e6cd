import DesignTokens.Json.Basic

/-!
# Ordered trees of named leaves

A tree is a sequence of named entries, and each entry is a leaf or a tree of its
own. Setting and merging keep the place of a name that is there already and add
new names at the end.
-/

namespace DesignTokens

/-- A sequence of named leaves and named subtrees. -/
inductive Tree (α : Type) where
  | nil
  | leaf (name : String) (value : α) (rest : Tree α)
  | node (name : String) (children : Tree α) (rest : Tree α)
  deriving DecidableEq, Repr

/-- What a name of a tree stands for. -/
inductive Slot (α : Type) where
  | leaf (value : α)
  | node (children : Tree α)
  deriving DecidableEq, Repr

namespace Tree

variable {α β : Type}

instance : Inhabited (Tree α) := ⟨nil⟩

/-- Whether a tree has no entry. -/
def isEmpty : Tree α → Bool
  | nil => true
  | _ => false

/-- What a name stands for. -/
def slot? (name : String) : Tree α → Option (Slot α)
  | nil => none
  | leaf key value rest => if key = name then some (.leaf value) else slot? name rest
  | node key children rest => if key = name then some (.node children) else slot? name rest

/-- A tree of one entry in front of others. -/
def cons (name : String) (slot : Slot α) (rest : Tree α) : Tree α :=
  match slot with
  | .leaf value => leaf name value rest
  | .node children => node name children rest

/-- Let a name stand for something, in its place if it is there already. -/
def put (name : String) (slot : Slot α) : Tree α → Tree α
  | nil => cons name slot nil
  | leaf key value rest =>
    if key = name then cons name slot rest else leaf key value (put name slot rest)
  | node key children rest =>
    if key = name then cons name slot rest else node key children (put name slot rest)

/-- The subtree of a name, which is empty if the name stands for no subtree. -/
def childrenOf (name : String) (tree : Tree α) : Tree α :=
  match tree.slot? name with
  | some (.node children) => children
  | _ => nil

/-- Let the path `first :: more` stand for something. A leaf on the way gives place to
a subtree. -/
def setAt (first : String) (more : List String) (slot : Slot α) (tree : Tree α) : Tree α :=
  match more with
  | [] => tree.put first slot
  | second :: rest => tree.put first (.node (setAt second rest slot (tree.childrenOf first)))

/-- Let a path stand for something; the empty path leads nowhere. -/
def set? (path : List String) (slot : Slot α) (tree : Tree α) : Option (Tree α) :=
  match path with
  | [] => none
  | first :: more => some (tree.setAt first more slot)

/-- Put every entry of a tree into another one. Subtrees of one name are merged; a
leaf replaces what its name stood for, and a subtree replaces a leaf. -/
def merge (target : Tree α) : Tree α → Tree α
  | nil => target
  | leaf name value rest => merge (target.put name (.leaf value)) rest
  | node name children rest =>
    merge (target.put name (.node (merge (target.childrenOf name) children))) rest

/-- The leaves of a tree with their paths, below a given path. -/
def leavesFrom (path : List String) : Tree α → List (List String × α)
  | nil => []
  | leaf name value rest => (path ++ [name], value) :: leavesFrom path rest
  | node name children rest =>
    leavesFrom (path ++ [name]) children ++ leavesFrom path rest

/-- The leaves of a tree with their paths, in order. -/
def leaves (tree : Tree α) : List (List String × α) :=
  leavesFrom [] tree

/-- A tree with every leaf changed. -/
def map (f : α → β) : Tree α → Tree β
  | nil => nil
  | leaf name value rest => leaf name (f value) (map f rest)
  | node name children rest => node name (map f children) (map f rest)

/-- A tree in which a subtree of one named leaf stands for every leaf. -/
def wrap (label : String) : Tree α → Tree α
  | nil => nil
  | leaf name value rest => node name (leaf label value nil) (wrap label rest)
  | node name children rest => node name (wrap label children) (wrap label rest)

/-- The members of the object that a tree of values stands for. -/
def toMembers : Tree Json → List (String × Json)
  | nil => []
  | leaf name value rest => (name, value) :: toMembers rest
  | node name children rest => (name, .object (toMembers children)) :: toMembers rest

/-- A tree of values as an object. -/
def toJson (tree : Tree Json) : Json :=
  .object tree.toMembers

mutual

/-- What a value stands for in a tree: an object is a subtree, anything else a leaf. -/
def slotOf : Json → Slot Json
  | .object members => .node (ofMembers members)
  | .null => .leaf .null
  | .bool b => .leaf (.bool b)
  | .number x => .leaf (.number x)
  | .string s => .leaf (.string s)
  | .array items => .leaf (.array items)

/-- The tree that the members of an object stand for. -/
def ofMembers : List (String × Json) → Tree Json
  | [] => nil
  | (name, value) :: rest => cons name (slotOf value) (ofMembers rest)

end

@[simp] theorem isEmpty_nil : (nil : Tree α).isEmpty = true := rfl

@[simp] theorem leaves_nil : (nil : Tree α).leaves = [] := rfl

@[simp] theorem slot?_nil (name : String) : (nil : Tree α).slot? name = none := rfl

@[simp] theorem slot?_cons_self (name : String) (slot : Slot α) (rest : Tree α) :
    (cons name slot rest).slot? name = some slot := by
  cases slot <;> simp [cons, slot?]

@[simp] theorem slot?_put_self (name : String) (slot : Slot α) (tree : Tree α) :
    (tree.put name slot).slot? name = some slot := by
  induction tree with
  | nil => simp [put]
  | leaf key value rest ih => by_cases h : key = name <;> simp [put, slot?, h, ih]
  | node key children rest _ ih => by_cases h : key = name <;> simp [put, slot?, h, ih]

theorem slot?_cons_of_ne {name other : String} (h : other ≠ name) (slot : Slot α)
    (rest : Tree α) : (cons name slot rest).slot? other = rest.slot? other := by
  cases slot <;> simp [cons, slot?, Ne.symm h]

theorem slot?_put_of_ne {name other : String} (h : other ≠ name) (slot : Slot α)
    (tree : Tree α) : (tree.put name slot).slot? other = tree.slot? other := by
  induction tree with
  | nil => simpa [put] using slot?_cons_of_ne h slot nil
  | leaf key value rest ih =>
    by_cases hk : key = name
    · simp [put, hk, slot?, slot?_cons_of_ne h, Ne.symm h]
    · simp [put, hk, slot?, ih]
  | node key children rest _ ih =>
    by_cases hk : key = name
    · simp [put, hk, slot?, slot?_cons_of_ne h, Ne.symm h]
    · simp [put, hk, slot?, ih]

@[simp] theorem childrenOf_put_node (name : String) (children tree : Tree α) :
    (tree.put name (.node children)).childrenOf name = children := by
  simp [childrenOf]

end Tree

end DesignTokens
