import DesignTokens.Proofs.Tree.Insertion

/-!
# Setting a slot at a path

What a path leads to is looked up from slot to slot. Setting a slot at a path makes the path
lead to it and every shorter part of the path lead to a subtree, and all paths that do not meet
it lead where they led before. A level that the path passes through keeps the order of its names
and gets the next name at its end, unless the name is there already.

The same tree is left behind by a walk that changes one tree in place: it opens a subtree under
each name but the last, puts the slot under the last name at the level it has reached, and
changes nothing if there is no last name.
-/

namespace DesignTokens

variable {α : Type}

/-- What a path leads to from a slot. -/
def Slot.at? : List String → Slot α → Option (Slot α)
  | [], slot => some slot
  | name :: rest, slot => (slot.children.slot? name).bind (Slot.at? rest)

namespace Tree

/-- What a path leads to in a tree. The empty path leads to the tree itself. -/
def at? (path : List String) (tree : Tree α) : Option (Slot α) :=
  (Slot.node tree).at? path

/-- The level at a path, which is empty if no subtree stands there. -/
def level : List String → Tree α → Tree α
  | [], tree => tree
  | name :: rest, tree => (tree.childrenOf name).level rest

@[simp] theorem at?_nil (tree : Tree α) : tree.at? [] = some (.node tree) := rfl

theorem at?_cons (name : String) (rest : List String) (tree : Tree α) :
    tree.at? (name :: rest) = (tree.slot? name).bind (Slot.at? rest) := rfl

@[simp] theorem level_nil (tree : Tree α) : tree.level [] = tree := rfl

@[simp] theorem level_cons (name : String) (rest : List String) (tree : Tree α) :
    tree.level (name :: rest) = (tree.childrenOf name).level rest := rfl

/-- A path of at least two names leads through the subtree of the first one. -/
theorem at?_childrenOf (name : String) {rest : List String} (h : rest ≠ []) (tree : Tree α) :
    (tree.childrenOf name).at? rest = tree.at? (name :: rest) := by
  obtain ⟨second, more, rfl⟩ := List.exists_cons_of_ne_nil h
  rw [childrenOf_eq, at?_cons, at?_cons]
  cases tree.slot? name <;> rfl

/-- A path leads to what its last name stands for at the level before it. -/
theorem at?_concat (place : List String) (name : String) (tree : Tree α) :
    tree.at? (place ++ [name]) = (tree.level place).slot? name := by
  induction place generalizing tree with
  | nil =>
      rw [List.nil_append, at?_cons, level_nil]
      cases tree.slot? name <;> rfl
  | cons first rest ih =>
      rw [List.cons_append, ← at?_childrenOf first (by simp), ih, level_cons]

section SetAt

variable (tree : Tree α) (first : String) (more : List String) (slot : Slot α)

theorem setAt_nil : tree.setAt first [] slot = tree.put first slot := rfl

theorem setAt_cons (second : String) (rest : List String) :
    tree.setAt first (second :: rest) slot =
      tree.put first (.node ((tree.childrenOf first).setAt second rest slot)) := rfl

/-- The path leads to what was set. -/
theorem at?_setAt_self : (tree.setAt first more slot).at? (first :: more) = some slot := by
  induction more generalizing tree first with
  | nil =>
      rw [setAt_nil, at?_cons, slot?_put_self]
      rfl
  | cons second rest ih =>
      rw [setAt_cons, at?_cons, slot?_put_self]
      exact ih (tree.childrenOf first) second

variable {first more}

/-- A part of the path that is shorter leads to a subtree. -/
theorem at?_setAt_above {place : List String} (above : Above place (first :: more)) :
    ∃ children, (tree.setAt first more slot).at? place = some (.node children) := by
  induction more generalizing tree first place with
  | nil =>
      cases place with
      | nil => exact ⟨_, rfl⟩
      | cons key rest =>
          obtain ⟨rfl, front, short⟩ := (above_cons_cons ..).mp above
          exact absurd (List.prefix_nil.mp front) short
  | cons second rest ih =>
      cases place with
      | nil => exact ⟨_, rfl⟩
      | cons key below =>
          obtain ⟨rfl, shorter⟩ := (above_cons_cons ..).mp above
          rw [setAt_cons, at?_cons, slot?_put_self]
          exact ih (tree.childrenOf key) shorter

/-- Setting changes what its first name stands for and nothing else on the first level. -/
theorem slot?_setAt_of_ne {other : String} (h : other ≠ first) :
    (tree.setAt first more slot).slot? other = tree.slot? other := by
  cases more <;> exact slot?_put_of_ne h _ tree

/-- A path that does not meet the path of the slot leads where it led before. -/
theorem at?_setAt_of_not_meets {place : List String} (apart : ¬ Meets place (first :: more)) :
    (tree.setAt first more slot).at? place = tree.at? place := by
  induction more generalizing tree first place with
  | nil =>
      cases place with
      | nil => exact absurd (meets_nil_left _) apart
      | cons key rest =>
          have other : key ≠ first := fun same =>
            apart ((meets_cons_cons ..).mpr ⟨same, meets_nil_right rest⟩)
          rw [at?_cons, at?_cons, slot?_setAt_of_ne tree slot other]
  | cons second more ih =>
      cases place with
      | nil => exact absurd (meets_nil_left _) apart
      | cons key rest =>
          by_cases same : key = first
          · subst same
            have inside : ¬ Meets rest (second :: more) := fun meets =>
              apart ((meets_cons_cons ..).mpr ⟨rfl, meets⟩)
            have long : rest ≠ [] := by
              rintro rfl
              exact inside (meets_nil_left _)
            rw [setAt_cons, ← at?_childrenOf key long, childrenOf_put_node, ih _ inside,
              at?_childrenOf key long]
          · rw [at?_cons, at?_cons, slot?_setAt_of_ne tree slot same]

theorem names_setAt : (tree.setAt first more slot).names =
    if first ∈ tree.names then tree.names else tree.names ++ [first] := by
  cases more <;> exact names_put first _ tree

/-- A level on the way keeps the order of its names, and a new name comes last. -/
theorem names_level_setAt {place rest : List String} {name : String}
    (way : first :: more = place ++ name :: rest) :
    ((tree.setAt first more slot).level place).names =
      if name ∈ (tree.level place).names then (tree.level place).names
      else (tree.level place).names ++ [name] := by
  induction place generalizing tree first more with
  | nil =>
      obtain ⟨rfl, rfl⟩ := List.cons.inj way
      exact names_setAt tree slot
  | cons key below ih =>
      obtain ⟨rfl, onward⟩ := List.cons.inj way
      obtain ⟨second, more, rfl⟩ : ∃ second after, more = second :: after :=
        List.exists_cons_of_ne_nil (by simp [onward])
      rw [setAt_cons, level_cons, level_cons, childrenOf_put_node]
      exact ih (tree.childrenOf first) onward

/-- Of two slots set at one path the second counts. -/
theorem setAt_setAt (later : Slot α) :
    (tree.setAt first more slot).setAt first more later = tree.setAt first more later := by
  induction more generalizing tree first with
  | nil => exact put_put_self first slot later tree
  | cons second rest ih =>
      rw [setAt_cons, setAt_cons, setAt_cons, childrenOf_put_node, put_put_self, ih]

end SetAt

/-- Change the level at a path. -/
def alter (change : Tree α → Tree α) : List String → Tree α → Tree α
  | [], tree => change tree
  | name :: rest, tree => tree.put name (.node ((tree.childrenOf name).alter change rest))

/-- Let a name stand for a subtree, which is an empty one unless it has one already. -/
def branch (name : String) (tree : Tree α) : Tree α :=
  match tree.slot? name with
  | some (.node _) => tree
  | _ => tree.put name (.node nil)

/-- A tree that is changed in place, and the path of the level a walk through it has reached. -/
structure Walk (α : Type) where
  tree : Tree α
  place : List String

/-- Go down under a name of the level, with a new subtree where there is none. -/
def Walk.descend (walk : Walk α) (name : String) : Walk α where
  tree := walk.tree.alter (branch name) walk.place
  place := walk.place ++ [name]

/-- Set a slot in place: walk down all names but the last, and put the slot under the last one.
The result says whether there is a last name, and what is left of the tree in either case. -/
def assign (path : List String) (slot : Slot α) (tree : Tree α) : Bool × Tree α :=
  let walk := path.dropLast.foldl Walk.descend ⟨tree, []⟩
  match path.getLast? with
  | none => (false, walk.tree)
  | some name => (true, walk.tree.alter (put name slot) walk.place)

theorem childrenOf_branch (name : String) (tree : Tree α) :
    (tree.branch name).childrenOf name = tree.childrenOf name := by
  unfold branch
  split
  · rfl
  case h_2 leafless =>
      rw [childrenOf_put_node, childrenOf]
      split
      case h_1 children found => exact absurd found (leafless children)
      case h_2 => rfl

theorem put_branch (name : String) (slot : Slot α) (tree : Tree α) :
    (tree.branch name).put name slot = tree.put name slot := by
  unfold branch
  split
  · rfl
  · exact put_put_self name _ slot tree

/-- A change further down opens the subtree by itself. -/
theorem alter_branch (change : Tree α → Tree α) (place : List String) (name : String)
    (rest : List String) (tree : Tree α) :
    (tree.alter (branch name) place).alter change (place ++ name :: rest) =
      tree.alter change (place ++ name :: rest) := by
  induction place generalizing tree with
  | nil =>
      change (tree.branch name).alter change (name :: rest) = tree.alter change (name :: rest)
      rw [alter, alter, childrenOf_branch, put_branch]
  | cons first below ih =>
      rw [List.cons_append, alter, alter, alter, childrenOf_put_node, put_put_self, ih]

/-- The steps of a walk make no difference to a change at the level it reaches. -/
theorem alter_foldl_descend (change : Tree α → Tree α) (names : List String) (walk : Walk α) :
    (names.foldl Walk.descend walk).tree.alter change (names.foldl Walk.descend walk).place =
      walk.tree.alter change (walk.place ++ names) := by
  induction names generalizing walk with
  | nil => rw [List.foldl_nil, List.append_nil]
  | cons name rest ih =>
      rw [List.foldl_cons, ih, Walk.descend, List.append_assoc, List.singleton_append,
        alter_branch]

/-- Putting a slot at the level before the last name is setting it at the path. -/
theorem set?_concat (place : List String) (name : String) (slot : Slot α) (tree : Tree α) :
    tree.set? (place ++ [name]) slot = some (tree.alter (put name slot) place) := by
  induction place generalizing tree with
  | nil => rfl
  | cons first rest ih =>
      obtain ⟨second, more, onward⟩ : ∃ second more, rest ++ [name] = second :: more :=
        List.exists_cons_of_ne_nil (by simp)
      have below := ih (tree.childrenOf first)
      rw [onward] at below
      rw [List.cons_append, onward, set?, setAt_cons, alter, ← Option.some.inj below]

/-- A walk in place leaves behind the tree that setting gives, and the tree it started with if
there is nowhere to set. -/
theorem assign_eq (path : List String) (slot : Slot α) (tree : Tree α) :
    tree.assign path slot =
      match tree.set? path slot with
      | some result => (true, result)
      | none => (false, tree) := by
  induction path using List.reverseRecOn with
  | nil => rfl
  | append_singleton place name _ =>
      rw [set?_concat, assign, List.dropLast_concat, List.getLast?_concat]
      simp only [alter_foldl_descend, List.nil_append]

/-- What a tree has become when a slot is set at a path. -/
structure SetTo (tree : Tree α) (path : List String) (slot : Slot α) (result : Tree α) :
    Prop where
  /-- The path leads to the slot. -/
  here : result.at? path = some slot
  /-- Every shorter part of the path leads to a subtree. -/
  onTheWay : ∀ place, Above place path → ∃ children, result.at? place = some (.node children)
  /-- Every other path, unless it goes on beyond this one, leads where it led before. -/
  elsewhere : ∀ place, ¬ Meets place path → result.at? place = tree.at? place
  /-- The names of a level on the way keep their places, and the next name on the way is
  appended if it is new. -/
  order : ∀ place name rest, path = place ++ name :: rest →
    (result.level place).names =
      if name ∈ (tree.level place).names then (tree.level place).names
      else (tree.level place).names ++ [name]

theorem setTo_setAt (tree : Tree α) (first : String) (more : List String) (slot : Slot α) :
    tree.SetTo (first :: more) slot (tree.setAt first more slot) where
  here := at?_setAt_self tree first more slot
  onTheWay _ above := at?_setAt_above tree slot above
  elsewhere _ apart := at?_setAt_of_not_meets tree slot apart
  order _ _ _ way := names_level_setAt tree slot way

/-- Setting obeys the laws of a place that is written and read. Any path with a name in it can be
set, in place as well as in a copy: the path then leads to the slot, everything apart from the
path is as it was, and what is set there later replaces the slot without a trace. The empty path
fails and leaves the tree as it is. -/
theorem set_obeys_laws (tree : Tree α) (slot later : Slot α) :
    (∀ path, path ≠ [] → ∃ result,
      tree.set? path slot = some result ∧ tree.assign path slot = (true, result) ∧
      tree.SetTo path slot result ∧ result.set? path later = tree.set? path later) ∧
    tree.set? [] slot = none ∧ tree.assign [] slot = (false, tree) := by
  refine ⟨fun path nonempty => ?_, rfl, rfl⟩
  obtain ⟨first, more, rfl⟩ := List.exists_cons_of_ne_nil nonempty
  refine ⟨tree.setAt first more slot, rfl, assign_eq .., setTo_setAt .., ?_⟩
  exact congrArg some (setAt_setAt tree slot later)

/-- Two shades of one group, and a color beside it. -/
def shades : Tree Nat :=
  node "brand" (leaf "sky" 1 (leaf "sea" 2 nil)) (leaf "ink" 3 nil)

/-- The same colors with a deeper group in the place of the second shade. -/
def deeperShades : Tree Nat :=
  node "brand" (leaf "sky" 1 (node "sea" (leaf "deep" 4 nil) nil)) (leaf "ink" 3 nil)

theorem set_obeys_laws_replacedLeaf :
    ["brand", "sea", "deep"] ≠ [] ∧
    shades.set? ["brand", "sea", "deep"] (.leaf 4) = some deeperShades ∧
    shades.assign ["brand", "sea", "deep"] (.leaf 4) = (true, deeperShades) ∧
    shades.SetTo ["brand", "sea", "deep"] (.leaf 4) deeperShades ∧
    deeperShades.set? ["brand", "sea", "deep"] (.leaf 5) =
      shades.set? ["brand", "sea", "deep"] (.leaf 5) := by
  have nonempty : ["brand", "sea", "deep"] ≠ [] := by simp
  obtain ⟨result, set, assigned, laws, again⟩ :=
    (set_obeys_laws shades (.leaf 4) (.leaf 5)).1 _ nonempty
  have same : shades.set? ["brand", "sea", "deep"] (.leaf 4) = some deeperShades := by decide
  obtain rfl : result = deeperShades := Option.some.inj (set.symm.trans same)
  exact ⟨nonempty, set, assigned, laws, again⟩

end Tree

end DesignTokens
