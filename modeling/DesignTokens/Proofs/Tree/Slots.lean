import DesignTokens.Tree.Basic

/-!
# Trees entry by entry

A tree is empty or one named slot in front of another tree. Seen this way the
operations on trees have one equation each, and the laws of `put` need no
distinction between leaves and subtrees.
-/

namespace DesignTokens

variable {α : Type}

namespace Tree

/-- Induction on the entries of one level of a tree. -/
@[elab_as_elim]
theorem entryInduction {motive : Tree α → Prop} (nil : motive .nil)
    (cons : ∀ name slot rest, motive rest → motive (cons name slot rest)) (tree : Tree α) :
    motive tree := by
  induction tree with
  | nil => exact nil
  | leaf name value rest ih => exact cons name (.leaf value) rest ih
  | node name children rest _ ih => exact cons name (.node children) rest ih

/-- The names of one level of a tree, in order. -/
def names : Tree α → List String
  | nil => []
  | leaf name _ rest => name :: rest.names
  | node name _ rest => name :: rest.names

/-- No level of a tree has a name twice. -/
def Distinct : Tree α → Prop
  | nil => True
  | leaf name _ rest => name ∉ rest.names ∧ rest.Distinct
  | node name children rest => name ∉ rest.names ∧ children.Distinct ∧ rest.Distinct

/-- No subtree is empty. The tree itself may be. -/
def Full : Tree α → Prop
  | nil => True
  | leaf _ _ rest => rest.Full
  | node _ children rest => children ≠ nil ∧ children.Full ∧ rest.Full

end Tree

namespace Slot

/-- The tree of a slot, which is empty for a leaf. -/
def children : Slot α → Tree α
  | leaf _ => .nil
  | node children => children

/-- No level below a slot has a name twice. -/
def Distinct : Slot α → Prop
  | leaf _ => True
  | node children => children.Distinct

/-- Neither the tree of a slot nor any of its subtrees is empty. -/
def Full : Slot α → Prop
  | leaf _ => True
  | node children => children ≠ .nil ∧ children.Full

/-- The leaves of a slot with their paths from it. -/
def leaves : Slot α → List (List String × α)
  | leaf value => [([], value)]
  | node children => children.leaves

/-- What becomes of a slot that is merged into a tree under a name. -/
def mergedInto (target : Tree α) (name : String) : Slot α → Slot α
  | leaf value => leaf value
  | node children => node ((target.childrenOf name).merge children)

end Slot

/-- A leaf whose path is lengthened by a name in front. -/
def under (name : String) (entry : List String × α) : List String × α :=
  (name :: entry.1, entry.2)

theorem Slot.distinct_leaf (value : α) : (Slot.leaf value).Distinct := trivial

theorem Slot.distinct_node {children : Tree α} (h : children.Distinct) :
    (Slot.node children).Distinct := h

theorem Slot.full_node {children : Tree α} (occupied : children ≠ .nil) (h : children.Full) :
    (Slot.node children).Full := ⟨occupied, h⟩

theorem Slot.full_leaf (value : α) : (Slot.leaf value).Full := trivial

namespace Tree

theorem distinct_nil : (nil : Tree α).Distinct := trivial

theorem full_nil : (nil : Tree α).Full := trivial

@[simp] theorem cons_ne_nil (name : String) (slot : Slot α) (rest : Tree α) :
    cons name slot rest ≠ nil := by
  cases slot <;> simp [cons]

@[simp] theorem names_nil : (nil : Tree α).names = [] := rfl

@[simp] theorem names_cons (name : String) (slot : Slot α) (rest : Tree α) :
    (cons name slot rest).names = name :: rest.names := by
  cases slot <;> rfl

theorem slot?_cons (name other : String) (slot : Slot α) (rest : Tree α) :
    (cons name slot rest).slot? other = if name = other then some slot else rest.slot? other := by
  cases slot <;> rfl

theorem put_nil (name : String) (slot : Slot α) :
    (nil : Tree α).put name slot = cons name slot nil := rfl

theorem put_cons (name other : String) (slot new : Slot α) (rest : Tree α) :
    (cons name slot rest).put other new =
      if name = other then cons other new rest else cons name slot (rest.put other new) := by
  cases slot <;> rfl

@[simp] theorem merge_nil (target : Tree α) : target.merge nil = target := rfl

theorem merge_cons (target : Tree α) (name : String) (slot : Slot α) (rest : Tree α) :
    target.merge (cons name slot rest) =
      (target.put name (slot.mergedInto target name)).merge rest := by
  cases slot <;> rfl

@[simp] theorem distinct_cons (name : String) (slot : Slot α) (rest : Tree α) :
    (cons name slot rest).Distinct ↔ name ∉ rest.names ∧ slot.Distinct ∧ rest.Distinct := by
  cases slot <;> simp [cons, Distinct, Slot.Distinct]

@[simp] theorem full_cons (name : String) (slot : Slot α) (rest : Tree α) :
    (cons name slot rest).Full ↔ slot.Full ∧ rest.Full := by
  cases slot <;> simp [cons, Full, Slot.Full, and_assoc]

theorem leavesFrom_eq_map (path : List String) (tree : Tree α) :
    tree.leavesFrom path = tree.leaves.map fun entry => (path ++ entry.1, entry.2) := by
  unfold leaves
  suffices h : ∀ more : List String, tree.leavesFrom (path ++ more) =
      (tree.leavesFrom more).map fun entry => (path ++ entry.1, entry.2) by
    simpa using h []
  intro more
  induction tree generalizing more with
  | nil => rfl
  | leaf name value rest ih => simp [leavesFrom, ih]
  | node name children rest ihc ih => simp [leavesFrom, ih, ihc]

theorem leaves_cons (name : String) (slot : Slot α) (rest : Tree α) :
    (cons name slot rest).leaves = slot.leaves.map (under name) ++ rest.leaves := by
  cases slot with
  | leaf value => rfl
  | node children =>
      change children.leavesFrom [name] ++ rest.leaves = _
      rw [leavesFrom_eq_map]
      rfl

theorem leaves_leaf (name : String) (value : α) (rest : Tree α) :
    (leaf name value rest).leaves = ([name], value) :: rest.leaves :=
  leaves_cons name (.leaf value) rest

theorem leaves_node (name : String) (children rest : Tree α) :
    (node name children rest).leaves = children.leaves.map (under name) ++ rest.leaves :=
  leaves_cons name (.node children) rest

theorem slot?_isSome_iff (name : String) (tree : Tree α) :
    (tree.slot? name).isSome ↔ name ∈ tree.names := by
  induction tree using entryInduction with
  | nil => simp
  | cons key slot rest ih =>
      by_cases h : key = name
      · simp [h]
      · simp [slot?_cons, h, Ne.symm h, ih]

theorem slot?_eq_none_iff (name : String) (tree : Tree α) :
    tree.slot? name = none ↔ name ∉ tree.names := by
  rw [← slot?_isSome_iff, Option.not_isSome_iff_eq_none]

theorem childrenOf_eq (name : String) (tree : Tree α) :
    tree.childrenOf name = ((tree.slot? name).map Slot.children).getD nil := by
  unfold childrenOf
  cases tree.slot? name with
  | none => rfl
  | some slot => cases slot <;> rfl

@[simp] theorem childrenOf_nil (name : String) : (nil : Tree α).childrenOf name = nil := rfl

@[simp] theorem childrenOf_put_self (name : String) (slot : Slot α) (tree : Tree α) :
    (tree.put name slot).childrenOf name = slot.children := by
  simp [childrenOf_eq]

theorem childrenOf_put_of_ne {name other : String} (h : other ≠ name) (slot : Slot α)
    (tree : Tree α) : (tree.put name slot).childrenOf other = tree.childrenOf other := by
  simp [childrenOf_eq, slot?_put_of_ne h]

theorem mergedInto_put_of_ne {name other : String} (h : other ≠ name) (new : Slot α)
    (tree : Tree α) (slot : Slot α) :
    slot.mergedInto (tree.put name new) other = slot.mergedInto tree other := by
  cases slot with
  | leaf value => rfl
  | node children => simp [Slot.mergedInto, childrenOf_put_of_ne h]

theorem names_put (name : String) (slot : Slot α) (tree : Tree α) :
    (tree.put name slot).names =
      if name ∈ tree.names then tree.names else tree.names ++ [name] := by
  induction tree using entryInduction with
  | nil => simp [put_nil]
  | cons key old rest ih =>
      by_cases h : key = name
      · simp [put_cons, h]
      · by_cases known : name ∈ rest.names <;> simp [put_cons, h, Ne.symm h, ih, known]

/-- The second of two values put under one name counts. -/
theorem put_put_self (name : String) (first second : Slot α) (tree : Tree α) :
    (tree.put name first).put name second = tree.put name second := by
  induction tree using entryInduction with
  | nil => simp [put_nil, put_cons]
  | cons key old rest ih =>
      by_cases h : key = name
      · simp [put_cons, h]
      · simp [put_cons, h, ih]

/-- Putting under a name that has a place already commutes with putting under another
one: only new names are appended. -/
theorem put_put_comm {name other : String} (h : other ≠ name) {tree : Tree α}
    (known : name ∈ tree.names) (slot new : Slot α) :
    (tree.put other new).put name slot = (tree.put name slot).put other new := by
  induction tree using entryInduction with
  | nil => simp at known
  | cons key old rest ih =>
      by_cases hk : key = name
      · subst hk
        simp [put_cons, Ne.symm h]
      · by_cases ho : key = other
        · subst ho
          simp [put_cons, hk]
        · have tail : name ∈ rest.names := by simpa [Ne.symm hk] using known
          simp [put_cons, hk, ho, ih tail]

/-- Putting back what a name stands for changes nothing. -/
theorem put_of_slot?_eq_some {name : String} {slot : Slot α} {tree : Tree α}
    (h : tree.slot? name = some slot) : tree.put name slot = tree := by
  induction tree using entryInduction with
  | nil => simp at h
  | cons key old rest ih =>
      by_cases hk : key = name
      · subst hk
        simp_all [put_cons]
      · simp_all [slot?_cons, put_cons]

/-- A property of trees that speaks of every slot of a level speaks of the slot of a name. -/
theorem slot_of_forall {holds : Tree α → Prop} {property : Slot α → Prop}
    (split : ∀ name slot rest, holds (cons name slot rest) → property slot ∧ holds rest)
    {tree : Tree α} (h : holds tree) {name : String} {slot : Slot α}
    (found : tree.slot? name = some slot) : property slot := by
  induction tree using entryInduction with
  | nil => simp at found
  | cons key old rest ih =>
      obtain ⟨own, tail⟩ := split key old rest h
      rw [slot?_cons] at found
      split at found
      · exact Option.some.inj found ▸ own
      · exact ih tail found

theorem Distinct.slot {tree : Tree α} (distinct : tree.Distinct) {name : String}
    {slot : Slot α} (h : tree.slot? name = some slot) : slot.Distinct := by
  have split : ∀ name (slot : Slot α) rest, (cons name slot rest).Distinct →
      slot.Distinct ∧ rest.Distinct := fun _ _ _ level => ((distinct_cons ..).mp level).2
  exact slot_of_forall split distinct h

theorem Distinct.childrenOf {tree : Tree α} (distinct : tree.Distinct) (name : String) :
    (tree.childrenOf name).Distinct := by
  rw [childrenOf_eq]
  cases h : tree.slot? name with
  | none => trivial
  | some slot =>
      have own := distinct.slot h
      cases slot with
      | leaf value => trivial
      | node children => exact own

theorem Full.slot {tree : Tree α} (full : tree.Full) {name : String} {slot : Slot α}
    (h : tree.slot? name = some slot) : slot.Full := by
  have split : ∀ name (slot : Slot α) rest, (cons name slot rest).Full →
      slot.Full ∧ rest.Full := fun _ _ _ level => (full_cons ..).mp level
  exact slot_of_forall split full h

theorem Full.childrenOf {tree : Tree α} (full : tree.Full) (name : String) :
    (tree.childrenOf name).Full := by
  rw [childrenOf_eq]
  cases h : tree.slot? name with
  | none => trivial
  | some slot =>
      have own := full.slot h
      cases slot with
      | leaf value => trivial
      | node children => exact own.2

theorem Distinct.put {tree : Tree α} (distinct : tree.Distinct) {slot : Slot α}
    (own : slot.Distinct) (name : String) : (tree.put name slot).Distinct := by
  induction tree using entryInduction with
  | nil => exact (distinct_cons ..).mpr ⟨by simp, own, trivial⟩
  | cons key old rest ih =>
      obtain ⟨fresh, first, tail⟩ := (distinct_cons ..).mp distinct
      rw [put_cons]
      split
      case isTrue h => exact (distinct_cons ..).mpr ⟨h ▸ fresh, own, tail⟩
      case isFalse h =>
          refine (distinct_cons ..).mpr ⟨?_, first, ih tail⟩
          rw [names_put]
          split
          · exact fresh
          · simp [fresh, h]

theorem Full.put {tree : Tree α} (full : tree.Full) {slot : Slot α} (own : slot.Full)
    (name : String) : (tree.put name slot).Full := by
  induction tree using entryInduction with
  | nil => exact (full_cons ..).mpr ⟨own, trivial⟩
  | cons key old rest ih =>
      obtain ⟨first, tail⟩ := (full_cons ..).mp full
      rw [put_cons]
      split
      · exact (full_cons ..).mpr ⟨own, tail⟩
      · exact (full_cons ..).mpr ⟨first, ih tail⟩

@[simp] theorem put_ne_nil (name : String) (slot : Slot α) (tree : Tree α) :
    tree.put name slot ≠ nil := by
  induction tree using entryInduction with
  | nil => simp [put_nil]
  | cons key old rest ih =>
      rw [put_cons]
      split <;> simp

end Tree

end DesignTokens
