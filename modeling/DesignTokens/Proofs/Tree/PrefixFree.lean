import DesignTokens.Proofs.Tree.Merging

/-!
# Leaves in nobody's way

If no path of the leaves to be inserted is above another one, no insertion removes a leaf
of another path: the tree has exactly the paths of the insertions, and it can be inserted
again leaf by leaf. The leaves of a tree are always of this kind.
-/

namespace DesignTokens

variable {α : Type}

/-- No path of the entries is above the path of another one. -/
def PrefixFree (entries : List (List String × α)) : Prop :=
  ∀ first ∈ entries, ∀ second ∈ entries, ¬ Above first.1 second.1

instance (entries : List (List String × α)) : Decidable (PrefixFree entries) :=
  inferInstanceAs (Decidable (∀ first ∈ entries, ∀ second ∈ entries, ¬ Above first.1 second.1))

theorem PrefixFree.mono {entries more : List (List String × α)} (free : PrefixFree more)
    (subset : entries ⊆ more) : PrefixFree entries :=
  fun first mem second other => free first (subset mem) second (subset other)

/-- Paths that meet are the same. -/
theorem PrefixFree.eq_of_meets {entries : List (List String × α)} (free : PrefixFree entries)
    {first second : List String × α} (mem : first ∈ entries) (other : second ∈ entries)
    (meets : Meets first.1 second.1) : first.1 = second.1 := by
  by_contra differ
  rcases meets with leads | leads
  · exact free first mem second other ⟨leads, differ⟩
  · exact free second other first mem ⟨leads, Ne.symm differ⟩

/-- Where every path occurs once, the value of a path is that of its only entry. -/
theorem lastValue?_eq_some_iff_mem {entries : List (List String × α)}
    (nodup : (entries.map Prod.fst).Nodup) (path : List String) (value : α) :
    lastValue? path entries = some value ↔ (path, value) ∈ entries := by
  constructor
  · exact mem_of_lastValue?_eq_some
  · intro mem
    cases found : lastValue? path entries with
    | none =>
        rw [lastValue?_eq_none_iff] at found
        exact absurd (List.mem_map_of_mem mem) found
    | some kept =>
        have listed := mem_of_lastValue?_eq_some found
        have same := List.inj_on_of_nodup_map nodup listed mem rfl
        rw [(Prod.mk.inj same).2]

namespace Tree

/-- Insertions that are in nobody's way leave at each path the last value given to it. -/
theorem leafAt?_insertAll_of_prefixFree {entries : List (List String × α)}
    (nonempty : ∀ entry ∈ entries, entry.1 ≠ []) (free : PrefixFree entries)
    (path : List String) :
    ((nil : Tree α).insertAll entries).leafAt? path = lastValue? path entries := by
  cases found : ((nil : Tree α).insertAll entries).leafAt? path with
  | some value =>
      rw [lastValue?_eq_some_of_leafAt?_insertAll nonempty found]
  | none =>
      symm
      rw [lastValue?_eq_none_iff]
      intro occurs
      obtain ⟨entry, mem, rfl⟩ := List.mem_map.mp occurs
      rw [leafAt?_insertAll nil nonempty] at found
      cases met : entries.reverse.find? fun e => Meets e.1 entry.1 with
      | none =>
          rw [List.find?_eq_none] at met
          have apart := met entry (List.mem_reverse.mpr mem)
          simp [Meets.refl] at apart
      | some last =>
          have listed := List.mem_reverse.mp (List.mem_of_find?_eq_some met)
          have meets : Meets last.1 entry.1 := by simpa using List.find?_some met
          simp [met, free.eq_of_meets listed mem meets] at found

/-- A leaf hides whatever a path beyond it would lead to. -/
theorem leafAt?_of_above {tree : Tree α} {path beyond : List String} {value : α}
    (found : tree.leafAt? path = some value) (above : Above path beyond) :
    tree.leafAt? beyond = none := by
  induction path generalizing tree beyond with
  | nil => simp at found
  | cons name rest ih =>
      cases beyond with
      | nil => exact absurd (List.prefix_nil.mp above.1) (List.cons_ne_nil name rest)
      | cons key more =>
          rw [above_cons_cons] at above
          obtain ⟨rfl, above⟩ := above
          cases hs : tree.slot? name with
          | none => exact leafAt?_of_slot?_eq_none hs more
          | some slot =>
              cases slot with
              | node children =>
                  rw [leafAt?_of_node hs] at found ⊢
                  exact ih found above
              | leaf kept =>
                  have last : rest = [] := by
                    by_contra longer
                    simp [leafAt?_of_leaf hs, longer] at found
                  have longer : more ≠ [] := by
                    rintro rfl
                    exact above.2 last
                  rw [leafAt?_of_leaf hs, if_neg longer]

theorem prefixFree_leaves {tree : Tree α} (distinct : tree.Distinct) :
    PrefixFree tree.leaves := by
  intro first mem second other above
  have found := (mem_leaves_iff distinct first.1 first.2).mp mem
  have beyond := (mem_leaves_iff distinct second.1 second.2).mp other
  rw [leafAt?_of_above found above] at beyond
  exact absurd beyond.symm (Option.some_ne_none _)

/-- The entries of one tree followed by those of another one. -/
def append : Tree α → Tree α → Tree α
  | nil, other => other
  | leaf name value rest, other => leaf name value (rest.append other)
  | node name children rest, other => node name children (rest.append other)

theorem append_cons (name : String) (slot : Slot α) (rest other : Tree α) :
    (cons name slot rest).append other = cons name slot (rest.append other) := by
  cases slot <;> rfl

theorem append_assoc (first second third : Tree α) :
    (first.append second).append third = first.append (second.append third) := by
  induction first using entryInduction with
  | nil => rfl
  | cons name slot rest ih => rw [append_cons, append_cons, append_cons, ih]

theorem names_append (first second : Tree α) :
    (first.append second).names = first.names ++ second.names := by
  induction first using entryInduction with
  | nil => rfl
  | cons name slot rest ih => rw [append_cons, names_cons, names_cons, ih, List.cons_append]

/-- A new name is put behind the others. -/
theorem put_of_notMem {tree : Tree α} {name : String} (fresh : name ∉ tree.names)
    (slot : Slot α) : tree.put name slot = tree.append (cons name slot nil) := by
  induction tree using entryInduction with
  | nil => rfl
  | cons key old rest ih =>
      rw [names_cons, List.mem_cons, not_or] at fresh
      rw [put_cons, if_neg (Ne.symm fresh.1), append_cons, ih fresh.2]

theorem childrenOf_of_notMem {tree : Tree α} {name : String} (fresh : name ∉ tree.names) :
    tree.childrenOf name = nil := by
  rw [childrenOf_eq, (slot?_eq_none_iff ..).mpr fresh]
  rfl

@[simp] theorem append_nil (tree : Tree α) : tree.append nil = tree := by
  induction tree using entryInduction with
  | nil => rfl
  | cons name slot rest ih => rw [append_cons, ih]

/-- The first entry of a source with new names is put behind the target, and the names of
the other entries are still new. -/
theorem merge_cons_of_fresh {target rest : Tree α} {name : String} (slot : Slot α)
    (once : name ∉ rest.names) (fresh : ∀ key ∈ name :: rest.names, key ∉ target.names)
    (own : slot.mergedInto target name = slot)
    (tail : ∀ target : Tree α, (∀ key ∈ rest.names, key ∉ target.names) →
      target.merge rest = target.append rest) :
    target.merge (cons name slot rest) = target.append (cons name slot rest) := by
  have absent : name ∉ target.names := fresh name List.mem_cons_self
  have still : ∀ key ∈ rest.names, key ∉ (target.append (cons name slot nil)).names := by
    intro key mem here
    rw [names_append, List.mem_append] at here
    rcases here with known | same
    · exact fresh key (List.mem_cons_of_mem _ mem) known
    · rw [names_cons, names_nil, List.mem_singleton] at same
      exact once (same ▸ mem)
  rw [merge_cons, own, put_of_notMem absent, tail _ still, append_assoc, append_cons]
  rfl

/-- A tree whose names are new is merged as it is, behind the entries of the target. -/
theorem merge_eq_append {source : Tree α} (distinct : source.Distinct) (target : Tree α)
    (fresh : ∀ name ∈ source.names, name ∉ target.names) :
    target.merge source = target.append source := by
  induction source generalizing target with
  | nil => rw [merge_nil, append_nil]
  | leaf name value rest ih =>
      exact merge_cons_of_fresh (.leaf value) distinct.1 fresh rfl (ih distinct.2)
  | node name children rest ihc ih =>
      have absent : name ∉ target.names := fresh name List.mem_cons_self
      have alone : (nil : Tree α).merge children = children :=
        ihc distinct.2.1 nil fun _ _ => List.not_mem_nil
      have own : (Slot.node children).mergedInto target name = .node children := by
        rw [Slot.mergedInto, childrenOf_of_notMem absent, alone]
      exact merge_cons_of_fresh (.node children) distinct.1 fresh own (ih distinct.2.2)

/-- A tree is rebuilt from its leaves, in the same order on every level. -/
theorem insertAll_leaves {tree : Tree α} (distinct : tree.Distinct) (full : tree.Full) :
    nil.insertAll tree.leaves = tree := by
  rw [← merge_eq_insertAll full, merge_eq_append distinct nil fun _ _ => List.not_mem_nil]
  rfl

/-- A tree built without clashes lists each of its paths once, with the last value given
to it. -/
theorem mem_leaves_insertAll_iff {entries : List (List String × α)}
    (nonempty : ∀ entry ∈ entries, entry.1 ≠ []) (free : PrefixFree entries)
    (path : List String) (value : α) :
    (path, value) ∈ ((nil : Tree α).insertAll entries).leaves ↔
      lastValue? path entries = some value := by
  rw [mem_leaves_iff (distinct_nil.insertAll entries),
    leafAt?_insertAll_of_prefixFree nonempty free]

end Tree

end DesignTokens
