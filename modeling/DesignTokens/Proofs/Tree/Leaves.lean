import DesignTokens.Proofs.Tree.Insertion
import Mathlib.Data.List.Nodup

/-!
# The leaves of a tree

The listing of a tree's leaves agrees with looking them up: where no level has a name
twice, every path of the listing occurs once, and it occurs with the value that stands
at the path.
-/

namespace DesignTokens.Tree

variable {α β : Type}

theorem ne_nil_of_mem_leaves {tree : Tree α} {path : List String} {value : α}
    (h : (path, value) ∈ tree.leaves) : path ≠ [] := by
  induction tree using entryInduction with
  | nil => simp at h
  | cons name slot rest ih =>
      rw [leaves_cons, List.mem_append] at h
      rcases h with h | h
      · obtain ⟨entry, _, same⟩ := List.mem_map.mp h
        cases same
        exact List.cons_ne_nil _ _
      · exact ih h

theorem mem_names_of_mem_leaves {tree : Tree α} {name : String} {rest : List String}
    {value : α} (h : (name :: rest, value) ∈ tree.leaves) : name ∈ tree.names := by
  induction tree using entryInduction with
  | nil => simp at h
  | cons key slot tail ih =>
      rw [leaves_cons, List.mem_append] at h
      rw [names_cons, List.mem_cons]
      rcases h with h | h
      · obtain ⟨entry, _, same⟩ := List.mem_map.mp h
        cases same
        exact Or.inl rfl
      · exact Or.inr (ih h)

theorem mem_names_of_leafAt?_eq_some {tree : Tree α} {name : String} {rest : List String}
    {value : α} (h : tree.leafAt? (name :: rest) = some value) : name ∈ tree.names := by
  rw [← slot?_isSome_iff]
  cases hs : tree.slot? name with
  | none => simp [leafAt?_of_slot?_eq_none hs] at h
  | some slot => rfl

theorem leafAt?_cons_self (name : String) (slot : Slot α) (tail : Tree α)
    (rest : List String) :
    (cons name slot tail).leafAt? (name :: rest) =
      (cons name slot nil).leafAt? (name :: rest) :=
  leafAt?_congr (by simp) rest

theorem leafAt?_cons_of_ne {name other : String} (h : other ≠ name) (slot : Slot α)
    (tail : Tree α) (rest : List String) :
    (cons name slot tail).leafAt? (other :: rest) = tail.leafAt? (other :: rest) :=
  leafAt?_congr (slot?_cons_of_ne h slot tail) rest

theorem mem_map_under_iff {name : String} {path : List String} {value : α}
    {entries : List (List String × α)} :
    (path, value) ∈ entries.map (under name) ↔
      ∃ rest, path = name :: rest ∧ (rest, value) ∈ entries := by
  simp only [List.mem_map, under, Prod.mk.injEq, Prod.exists]
  constructor
  · rintro ⟨rest, kept, h, rfl, rfl⟩
    exact ⟨rest, rfl, h⟩
  · rintro ⟨rest, rfl, h⟩
    exact ⟨rest, value, h, rfl, rfl⟩

/-- An entry whose slot is listed faithfully may stand in front of a tree that is. -/
theorem mem_leaves_cons_iff {name : String} (slot : Slot α) {tail : Tree α} {value : α}
    (own : ∀ rest, (rest, value) ∈ slot.leaves ↔
      (cons name slot nil).leafAt? (name :: rest) = some value)
    (fresh : name ∉ tail.names)
    (others : ∀ path, (path, value) ∈ tail.leaves ↔ tail.leafAt? path = some value)
    (path : List String) :
    (path, value) ∈ (cons name slot tail).leaves ↔
      (cons name slot tail).leafAt? path = some value := by
  rw [leaves_cons, List.mem_append, mem_map_under_iff, others]
  cases path with
  | nil => simp
  | cons key rest =>
      by_cases same : key = name
      · subst same
        rw [leafAt?_cons_self, ← own]
        constructor
        · rintro (⟨_, h, mem⟩ | h)
          · cases h
            exact mem
          · exact absurd (mem_names_of_leafAt?_eq_some h) fresh
        · intro mem
          exact Or.inl ⟨rest, rfl, mem⟩
      · rw [leafAt?_cons_of_ne same]
        simp [same]

/-- A leaf is listed with a path exactly if it stands at the path. -/
theorem mem_leaves_iff {tree : Tree α} (distinct : tree.Distinct) (path : List String)
    (value : α) : (path, value) ∈ tree.leaves ↔ tree.leafAt? path = some value := by
  induction tree generalizing path with
  | nil => simp
  | leaf name kept tail ih =>
      refine mem_leaves_cons_iff (.leaf kept) (fun rest => ?_) distinct.1
        (ih distinct.2) path
      rw [leafAt?_of_leaf (slot?_cons_self ..)]
      cases rest <;> simp [Slot.leaves, eq_comm]
  | node name children tail ihc ih =>
      refine mem_leaves_cons_iff (.node children) (fun rest => ?_) distinct.1
        (ih distinct.2.2) path
      rw [leafAt?_of_node (slot?_cons_self ..)]
      exact ihc distinct.2.1 rest

theorem nodup_leaves_cons {name : String} (slot : Slot α) {tail : Tree α}
    (own : (slot.leaves.map Prod.fst).Nodup) (fresh : name ∉ tail.names)
    (others : (tail.leaves.map Prod.fst).Nodup) :
    ((cons name slot tail).leaves.map Prod.fst).Nodup := by
  have below : (slot.leaves.map (under name)).map Prod.fst =
      (slot.leaves.map Prod.fst).map (name :: ·) := by
    simp [under, Function.comp_def]
  rw [leaves_cons, List.map_append, below, List.nodup_append]
  refine ⟨own.map fun _ _ same => List.tail_eq_of_cons_eq same, others, ?_⟩
  intro path mem other mem_other same
  subst same
  obtain ⟨rest, _, rfl⟩ := List.mem_map.mp mem
  obtain ⟨entry, listed, here⟩ := List.mem_map.mp mem_other
  obtain ⟨path, value⟩ := entry
  cases here
  exact fresh (mem_names_of_mem_leaves listed)

/-- No path is listed twice. -/
theorem nodup_leaves {tree : Tree α} (distinct : tree.Distinct) :
    (tree.leaves.map Prod.fst).Nodup := by
  induction tree with
  | nil => simp
  | leaf name kept tail ih =>
      exact nodup_leaves_cons (.leaf kept) (by simp [Slot.leaves]) distinct.1
        (ih distinct.2)
  | node name children tail ihc ih =>
      exact nodup_leaves_cons (.node children) (ihc distinct.2.1) distinct.1
        (ih distinct.2.2)

/-- Changing the values of a tree changes the values of its leaves. -/
theorem leaves_map (f : α → β) (tree : Tree α) :
    (tree.map f).leaves = tree.leaves.map fun entry => (entry.1, f entry.2) := by
  induction tree with
  | nil => rfl
  | leaf name value rest ih => rw [map, leaves_leaf, leaves_leaf, ih, List.map_cons]
  | node name children rest ihc ih =>
      rw [map, leaves_node, leaves_node, ih, ihc, List.map_append, List.map_map, List.map_map]
      rfl

/-- Wrapping the leaves of a tree lengthens their paths by the label. -/
theorem leaves_wrap (label : String) (tree : Tree α) :
    (tree.wrap label).leaves = tree.leaves.map fun entry => (entry.1 ++ [label], entry.2) := by
  induction tree with
  | nil => rfl
  | leaf name value rest ih =>
      rw [wrap, leaves_node, leaves_leaf, leaves_leaf, ih, List.map_cons]
      rfl
  | node name children rest ihc ih =>
      rw [wrap, leaves_node, leaves_node, ih, ihc, List.map_append, List.map_map, List.map_map]
      rfl

/-- A tree without empty subtrees has a leaf unless it is empty itself. -/
theorem exists_leafAt? {tree : Tree α} (full : tree.Full) (nonempty : tree ≠ nil) :
    ∃ path value, tree.leafAt? path = some value := by
  induction tree with
  | nil => exact absurd rfl nonempty
  | leaf name value rest _ => exact ⟨[name], value, by simp [leafAt?, slot?]⟩
  | node name children rest ihc _ =>
      obtain ⟨path, value, found⟩ := ihc full.2.1 full.1
      exact ⟨name :: path, value, by simp [leafAt?, slot?, found]⟩

theorem childrenOf_eq_nil_of_full {tree : Tree α} (full : tree.Full) {name : String}
    (clear : ∀ path, tree.leafAt? (name :: path) ≠ none → path = []) :
    tree.childrenOf name = nil := by
  by_contra occupied
  obtain ⟨path, value, found⟩ := exists_leafAt? (full.childrenOf name) occupied
  have here := clear path (by simp [leafAt?_cons_of_childrenOf found])
  simp [here] at found

theorem insertLeaf_ne_nil (tree : Tree α) {path : List String} (nonempty : path ≠ [])
    (value : α) : tree.insertLeaf (path, value) ≠ nil := by
  cases path with
  | nil => exact absurd rfl nonempty
  | cons name rest =>
      by_cases last : rest = []
      · subst last
        rw [insertLeaf_singleton]
        simp
      · rw [insertLeaf_cons tree name last]
        simp

/-- What holds of subtrees, and still holds when a leaf or a non-empty subtree is put under
a name, holds after an insertion. -/
theorem insertLeaf_preserves {holds : Tree α → Prop}
    (descend : ∀ {tree : Tree α}, holds tree → ∀ name, holds (tree.childrenOf name))
    (leaf : ∀ {tree : Tree α}, holds tree → ∀ name value, holds (tree.put name (.leaf value)))
    (node : ∀ {tree children : Tree α}, holds tree → children ≠ nil → holds children →
      ∀ name, holds (tree.put name (.node children)))
    {tree : Tree α} (h : holds tree) (entry : List String × α) :
    holds (tree.insertLeaf entry) := by
  obtain ⟨path, value⟩ := entry
  induction path generalizing tree with
  | nil => exact h
  | cons name rest ih =>
      by_cases last : rest = []
      · subst last
        exact leaf h name value
      · rw [insertLeaf_cons tree name last]
        exact node h (insertLeaf_ne_nil _ last value) (ih (descend h name)) name

theorem Distinct.insertLeaf {tree : Tree α} (distinct : tree.Distinct)
    (entry : List String × α) : (tree.insertLeaf entry).Distinct := by
  apply insertLeaf_preserves Distinct.childrenOf _ _ distinct entry
  · intro tree h name value
    exact h.put (Slot.distinct_leaf value) name
  · intro tree children h _ own name
    exact h.put (Slot.distinct_node own) name

theorem Full.insertLeaf {tree : Tree α} (full : tree.Full) (entry : List String × α) :
    (tree.insertLeaf entry).Full := by
  apply insertLeaf_preserves Full.childrenOf _ _ full entry
  · intro tree h name value
    exact h.put (Slot.full_leaf value) name
  · intro tree children h occupied own name
    exact h.put (Slot.full_node occupied own) name

theorem Distinct.insertAll {tree : Tree α} (distinct : tree.Distinct)
    (entries : List (List String × α)) : (tree.insertAll entries).Distinct :=
  List.foldlRecOn entries Tree.insertLeaf distinct fun _ h entry _ => h.insertLeaf entry

theorem Full.insertAll {tree : Tree α} (full : tree.Full)
    (entries : List (List String × α)) : (tree.insertAll entries).Full :=
  List.foldlRecOn entries Tree.insertLeaf full fun _ h entry _ => h.insertLeaf entry

end DesignTokens.Tree
