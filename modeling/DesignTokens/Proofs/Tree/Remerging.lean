import DesignTokens.Proofs.Tree.Merging

/-!
# Merging as a run of insertions

A merge sets the leaves of its source at their paths, one after the other from the root, and no
step of this run fails. A tree that holds a source already is not changed by merging the source
once more, whether or not the source has empty subtrees.
-/

namespace DesignTokens.Tree

variable {α : Type}

/-- Set leaves at their paths one after the other. An empty path fails. -/
def setAll? (tree : Tree α) (entries : List (List String × α)) : Option (Tree α) :=
  entries.foldlM (fun tree entry => tree.set? entry.1 (.leaf entry.2)) tree

/-- A run of insertions whose paths are not empty does not fail. -/
theorem setAll?_eq_insertAll {entries : List (List String × α)}
    (nonempty : ∀ entry ∈ entries, entry.1 ≠ []) (tree : Tree α) :
    tree.setAll? entries = some (tree.insertAll entries) := by
  induction entries generalizing tree with
  | nil => rfl
  | cons entry rest ih =>
      obtain ⟨path, value⟩ := entry
      have own : path ≠ [] := nonempty (path, value) List.mem_cons_self
      obtain ⟨name, more, rfl⟩ := List.exists_cons_of_ne_nil own
      exact ih (fun other mem => nonempty other (List.mem_cons_of_mem _ mem)) _

/-- A tree holds a slot under a name if merging the slot there leaves it as it is. -/
def Holds (tree : Tree α) (name : String) (slot : Slot α) : Prop :=
  tree.slot? name = some (slot.mergedInto tree name)

/-- The first entry of a source that is held already is not merged again. -/
theorem merge_cons_of_holds {tree : Tree α} {name : String} {slot : Slot α}
    (held : tree.Holds name slot) (rest : Tree α) :
    tree.merge (cons name slot rest) = tree.merge rest := by
  rw [merge_cons, put_of_slot?_eq_some held]

/-- What is merged under a name that does not come again is held by the result. -/
theorem holds_merge_cons {name : String} {slot : Slot α} {rest : Tree α}
    (fresh : name ∉ rest.names) (target : Tree α)
    (again : ∀ children, slot = .node children → ∀ tree : Tree α,
      (tree.merge children).merge children = tree.merge children) :
    (target.merge (cons name slot rest)).Holds name slot := by
  have found : (target.merge (cons name slot rest)).slot? name =
      some (slot.mergedInto target name) := by
    rw [merge_cons, slot?_merge_of_notMem fresh, slot?_put_self]
  rw [Holds, found]
  cases slot with
  | leaf value => rfl
  | node children =>
      have below : (target.merge (cons name (.node children) rest)).childrenOf name =
          (target.childrenOf name).merge children := by
        rw [childrenOf_eq, found]
        rfl
      rw [Slot.mergedInto, Slot.mergedInto, below, again children rfl]

/-- An entry in front of a source that can be merged twice may be merged twice with it. -/
theorem merge_merge_cons {name : String} {slot : Slot α} {rest : Tree α}
    (fresh : name ∉ rest.names)
    (own : ∀ children, slot = .node children → ∀ tree : Tree α,
      (tree.merge children).merge children = tree.merge children)
    (others : ∀ tree : Tree α, (tree.merge rest).merge rest = tree.merge rest)
    (target : Tree α) :
    (target.merge (cons name slot rest)).merge (cons name slot rest) =
      target.merge (cons name slot rest) := by
  rw [merge_cons_of_holds (holds_merge_cons fresh target own), merge_cons, others]

/-- Merging a source a second time changes nothing. -/
theorem merge_merge {source : Tree α} (distinct : source.Distinct) (target : Tree α) :
    (target.merge source).merge source = target.merge source := by
  induction source generalizing target with
  | nil => rfl
  | leaf name value rest ih =>
      have own : ∀ children, Slot.leaf value = .node children → ∀ tree : Tree α,
          (tree.merge children).merge children = tree.merge children := nofun
      exact merge_merge_cons distinct.1 own (ih distinct.2) target
  | node name children rest ihc ih =>
      have own : ∀ inner, Slot.node children = .node inner → ∀ tree : Tree α,
          (tree.merge inner).merge inner = tree.merge inner := by
        intro inner same
        cases same
        exact ihc distinct.2.1
      exact merge_merge_cons distinct.1 own (ih distinct.2.2) target

/-- Merging is inserting: a source without empty subtrees is merged by setting its leaves at
their paths in order, from the root and without a failure, and the result is the same tree with
the same order of names on every level. Merging any source, empty subtrees or not, a second
time changes nothing. -/
theorem merge_inserts_leaves :
    (∀ target source : Tree α, source.Full →
      target.setAll? source.leaves = some (target.merge source)) ∧
    ∀ target source : Tree α, source.Distinct →
      (target.merge source).merge source = target.merge source := by
  constructor
  · intro target source full
    rw [setAll?_eq_insertAll fun _ mem => ne_nil_of_mem_leaves mem, merge_eq_insertAll full]
  · exact fun target source distinct => merge_merge distinct target

/-- A tree with a leaf and a subtree that a source is about to exchange. -/
def crossedTarget : Tree Nat :=
  leaf "a" 1 (node "b" (leaf "x" 2 (leaf "y" 3 nil)) (leaf "c" 4 nil))

/-- A leaf in the place of a subtree, subtrees in the place of leaves, and a new name. -/
def crossedSource : Tree Nat :=
  leaf "b" 5 (node "a" (leaf "z" 6 (node "c" (leaf "x" 7 nil) nil))
    (node "d" (leaf "x" 8 nil) (node "c" (leaf "y" 9 nil) nil)))

/-- A source with an empty subtree in the place of a leaf. -/
def hollowSource : Tree Nat :=
  node "c" nil (node "b" (node "x" nil nil) nil)

theorem merge_inserts_leaves_crossed :
    crossedSource.Full ∧ crossedTarget.setAll? crossedSource.leaves =
      some (node "a" (leaf "z" 6 (node "c" (leaf "x" 7 nil) nil))
        (leaf "b" 5 (node "c" (leaf "y" 9 nil) (node "d" (leaf "x" 8 nil) nil)))) ∧
    hollowSource.Distinct ∧ crossedTarget.merge hollowSource ≠ crossedTarget ∧
    (crossedTarget.merge hollowSource).merge hollowSource = crossedTarget.merge hollowSource := by
  have full : crossedSource.Full := by simp [crossedSource, Full]
  have distinct : hollowSource.Distinct := by simp [hollowSource, Distinct, names]
  refine ⟨full, ?_, distinct, by decide, merge_inserts_leaves.2 crossedTarget hollowSource distinct⟩
  rw [merge_inserts_leaves.1 crossedTarget crossedSource full]
  decide

end DesignTokens.Tree
