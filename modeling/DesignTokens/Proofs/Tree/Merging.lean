import DesignTokens.Proofs.Tree.Leaves

/-!
# Merging and inserting

A merge inserts the leaves of its source one by one. The source settles its own
collisions first, so merging a tree that was built by insertions agrees with making
the same insertions in the target only if the source opens no path again that the
target has leaves below.
-/

namespace DesignTokens.Tree

variable {α : Type}

theorem leaves_ne_nil {tree : Tree α} (full : tree.Full) (nonempty : tree ≠ nil) :
    tree.leaves ≠ [] := by
  induction tree with
  | nil => exact absurd rfl nonempty
  | leaf name value rest _ =>
      rw [leaves_leaf]
      exact List.cons_ne_nil _ _
  | node name children rest ihc _ =>
      rw [leaves_node]
      simp [ihc full.2.1 full.1]

/-- Leaves below one name are inserted into the subtree of the name. -/
theorem insertAll_map_under (name : String) {entries : List (List String × α)}
    (some_entry : entries ≠ []) (nonempty : ∀ entry ∈ entries, entry.1 ≠ []) (tree : Tree α) :
    tree.insertAll (entries.map (under name)) =
      tree.put name (.node ((tree.childrenOf name).insertAll entries)) := by
  induction entries generalizing tree with
  | nil => exact absurd rfl some_entry
  | cons entry entries ih =>
      have own : entry.1 ≠ [] := nonempty entry (by simp)
      have first : tree.insertLeaf (under name entry) =
          tree.put name (.node ((tree.childrenOf name).insertLeaf entry)) :=
        insertLeaf_cons tree name own entry.2
      by_cases last : entries = []
      · subst last
        simpa using first
      · rw [List.map_cons, insertAll_cons, first,
          ih last (fun e he => nonempty e (by simp [he])), put_put_self]
        simp [Slot.children]

/-- Merging a tree without empty subtrees is inserting its leaves in order. -/
theorem merge_eq_insertAll {source : Tree α} (full : source.Full) (target : Tree α) :
    target.merge source = target.insertAll source.leaves := by
  induction source generalizing target with
  | nil => rfl
  | leaf name value rest ih =>
      rw [merge, ih full, leaves_leaf]
      rfl
  | node name children rest ihc ih =>
      obtain ⟨occupied, below, tail⟩ := full
      rw [merge, ih tail, ihc below, leaves_node, insertAll_append,
        insertAll_map_under name (leaves_ne_nil below occupied)
          fun _ mem => ne_nil_of_mem_leaves mem]

/-- A value under a name that the source does not have may be put before or after the
merge. -/
theorem merge_put_target {name : String} {target source : Tree α}
    (known : name ∈ target.names) (fresh : name ∉ source.names) (slot : Slot α) :
    (target.put name slot).merge source = (target.merge source).put name slot := by
  induction source using entryInduction generalizing target with
  | nil => rfl
  | cons key other rest ih =>
      rw [names_cons, List.mem_cons, not_or] at fresh
      have differ : key ≠ name := Ne.symm fresh.1
      have still : name ∈ (target.put key (other.mergedInto target key)).names := by
        rw [names_put]
        split <;> simp [known]
      rw [merge_cons, merge_cons, mergedInto_put_of_ne differ, ← ih still fresh.2,
        put_put_comm differ known]

/-- What is put into the source of a merge is put into its result, merged with what the
target has there. -/
theorem merge_put_source {source : Tree α} (distinct : source.Distinct) (target : Tree α)
    (name : String) (slot : Slot α) :
    target.merge (source.put name slot) =
      (target.merge source).put name (slot.mergedInto target name) := by
  induction source using entryInduction generalizing target with
  | nil => rw [put_nil, merge_cons, merge_nil, merge_nil]
  | cons key old rest ih =>
      obtain ⟨fresh, _, tail⟩ := (distinct_cons ..).mp distinct
      by_cases same : key = name
      · subst same
        have known : key ∈ (target.put key (old.mergedInto target key)).names := by
          simp [← slot?_isSome_iff]
        rw [put_cons, if_pos rfl, merge_cons, merge_cons, ← merge_put_target known fresh,
          put_put_self]
      · rw [put_cons, if_neg same, merge_cons, merge_cons, ih tail,
          mergedInto_put_of_ne (Ne.symm same)]

theorem slot?_merge_of_notMem {source : Tree α} {name : String} (fresh : name ∉ source.names)
    (target : Tree α) : (target.merge source).slot? name = target.slot? name := by
  induction source using entryInduction generalizing target with
  | nil => rfl
  | cons key slot rest ih =>
      rw [names_cons, List.mem_cons, not_or] at fresh
      rw [merge_cons, ih fresh.2, slot?_put_of_ne fresh.1]

theorem slot?_merge_of_slot? {source : Tree α} (distinct : source.Distinct) {name : String}
    {slot : Slot α} (h : source.slot? name = some slot) (target : Tree α) :
    (target.merge source).slot? name = some (slot.mergedInto target name) := by
  rw [← put_of_slot?_eq_some h, merge_put_source distinct, slot?_put_self]

/-- The target has no leaf below a path that the source closes with a leaf on the way
to another path. -/
def Unobstructed (target source : Tree α) (path : List String) : Prop :=
  ∀ closed value, source.leafAt? closed = some value → Above closed path →
    ∀ below, Above closed below → target.leafAt? below = none

theorem Unobstructed.childrenOf {target source : Tree α} {name : String} {rest : List String}
    (h : Unobstructed target source (name :: rest)) :
    Unobstructed (target.childrenOf name) (source.childrenOf name) rest := by
  intro closed value found above below leads
  by_contra occupied
  obtain ⟨kept, there⟩ := Option.ne_none_iff_exists'.mp occupied
  have := h (name :: closed) value (leafAt?_cons_of_childrenOf found) (by simpa using above)
    (name :: below) (by simpa using leads)
  rw [leafAt?_cons_of_childrenOf there] at this
  exact absurd this (Option.some_ne_none kept)

/-- The subtrees of one name are merged, where the source has no leaf of that name that
hides a subtree of the target. -/
theorem childrenOf_merge {target source : Tree α} (distinct : source.Distinct) (name : String)
    (visible : ∀ value, source.slot? name = some (.leaf value) → target.childrenOf name = nil) :
    (target.merge source).childrenOf name =
      (target.childrenOf name).merge (source.childrenOf name) := by
  rw [childrenOf_eq name (target.merge source), childrenOf_eq name source]
  cases found : source.slot? name with
  | none =>
      rw [slot?_merge_of_notMem ((slot?_eq_none_iff ..).mp found), childrenOf_eq name target]
      rfl
  | some slot =>
      rw [slot?_merge_of_slot? distinct found]
      cases slot with
      | leaf value =>
          rw [visible value found]
          rfl
      | node children => rfl

/-- A leaf may be inserted before or after a merge if nothing stands in its way. -/
theorem merge_insertLeaf {target source : Tree α} (distinct : source.Distinct)
    (full : target.Full) {path : List String} (free : Unobstructed target source path)
    (value : α) :
    target.merge (source.insertLeaf (path, value)) =
      (target.merge source).insertLeaf (path, value) := by
  induction path generalizing target source with
  | nil => rfl
  | cons name rest ih =>
      by_cases last : rest = []
      · subst last
        rw [insertLeaf_singleton, merge_put_source distinct]
        rfl
      · -- The insertion opens `name` again: a leaf there may hide nothing of the target.
        have visible : ∀ kept, source.slot? name = some (.leaf kept) →
            target.childrenOf name = nil := by
          intro kept found
          apply childrenOf_eq_nil_of_full full
          intro below occupied
          by_contra longer
          apply occupied
          refine free [name] kept (by rw [leafAt?_of_leaf found, if_pos rfl]) ?_ _ ?_
          · simpa [Above] using Ne.symm last
          · simpa [Above] using Ne.symm longer
        rw [insertLeaf_cons source name last, insertLeaf_cons _ name last,
          merge_put_source distinct, childrenOf_merge distinct name visible,
          ← ih (distinct.childrenOf name) (full.childrenOf name) free.childrenOf]
        rfl

/-- Merging a tree that was built by insertions agrees with making the insertions in
the target, if no insertion below a path follows one at the path while the target has
leaves below it. -/
theorem merge_insertAll {target : Tree α} (full : target.Full)
    {entries : List (List String × α)} (nonempty : ∀ entry ∈ entries, entry.1 ≠ [])
    (free : entries.Pairwise fun first later => Above first.1 later.1 →
      ∀ below, Above first.1 below → target.leafAt? below = none) :
    target.merge ((nil : Tree α).insertAll entries) = target.insertAll entries := by
  induction entries using List.reverseRecOn with
  | nil => rfl
  | append_singleton entries entry ih =>
      rw [List.pairwise_append] at free
      have earlier : ∀ e ∈ entries, e.1 ≠ [] := fun e he => nonempty e (by simp [he])
      have unobstructed :
          Unobstructed target ((nil : Tree α).insertAll entries) entry.1 := by
        intro closed value found above
        have mem := mem_of_lastValue?_eq_some
          (lastValue?_eq_some_of_leafAt?_insertAll earlier found)
        exact free.2.2 _ mem entry (by simp) above
      rw [insertAll_append, insertAll_append, ← ih earlier free.1]
      exact merge_insertLeaf (distinct_nil.insertAll entries) full unobstructed entry.2

end DesignTokens.Tree
