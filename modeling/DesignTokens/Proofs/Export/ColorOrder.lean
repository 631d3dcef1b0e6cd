import DesignTokens.Proofs.Export.Nodes
import DesignTokens.Proofs.Tree.Merging

/-!
# The order of colors

Reading a color section inserts its colors in the order of the visit, except that a
group settles the collisions among its own colors before they meet those read earlier.
The two orders agree unless a group closes a path with a color and opens it again while
an earlier color lies below the path.

## Implementation notes

The reader merges the tree of a group into the tree read so far. What the group has
overwritten is no longer there at that moment, so a color that closed a path within the
group and was replaced by a later one hides nothing outside of the group.
-/

namespace DesignTokens.Export

mutual

/-- The named colors at a path and below it, in the order of their visit, each with the
segments of its path. -/
def colorEntriesAt (path : String) : Json → List (List String × String)
  | .object members =>
    match Node.ofMembers members with
    | .color value =>
      if Key.segments path = [] then [] else [(Key.segments path, value)]
    | .group _ => colorEntriesBelow path members
    | _ => []
  | _ => []

/-- The named colors of nodes whose names stand below `parent`, in the order of their
visit. -/
def colorEntriesBelow (parent : String) : List (String × Json) → List (List String × String)
  | [] => []
  | (name, value) :: rest =>
    colorEntriesAt (Key.joinPath parent name) value ++ colorEntriesBelow parent rest

end

/-- The colors that a node adds to those read before it: a color itself, and of a group
the colors that are left in its own tree. -/
def settledEntriesAt (path : String) (value : Json) : List (List String × String) :=
  match Node.ofJson value with
  | .group members => (colors path members).leaves
  | _ => colorEntriesAt path value

/-- The colors that nodes add one after the other. -/
def settledEntries (parent : String) (nodes : List (String × Json)) :
    List (List String × String) :=
  nodes.flatMap fun (name, value) => settledEntriesAt (Key.joinPath parent name) value

/-- A group of a section: the colors visited before it and the colors within it. -/
structure ColorGroup where
  before : List (List String × String)
  own : List (List String × String)
  deriving DecidableEq

/-- A group opens a path that one of its colors closed only if no color visited before
the group lies below the path. -/
def ColorGroup.Settled (group : ColorGroup) : Prop :=
  group.own.Pairwise fun first later => Above first.1 later.1 →
    ∀ earlier ∈ group.before, ¬ Above first.1 earlier.1

instance (group : ColorGroup) : Decidable group.Settled :=
  inferInstanceAs (Decidable (List.Pairwise _ _))

mutual

/-- The groups at a path and below it, after the colors visited before. -/
def colorGroupsAt (before : List (List String × String)) (path : String) :
    Json → List ColorGroup
  | .object members =>
    match Node.ofMembers members with
    | .group _ => ⟨before, colorEntriesBelow path members⟩ :: colorGroupsBelow before path members
    | _ => []
  | _ => []

/-- The groups among nodes whose names stand below `parent`, and below them. -/
def colorGroupsBelow (before : List (List String × String)) (parent : String) :
    List (String × Json) → List ColorGroup
  | [] => []
  | (name, value) :: rest =>
    colorGroupsAt before (Key.joinPath parent name) value ++
      colorGroupsBelow (before ++ colorEntriesAt (Key.joinPath parent name) value) parent rest

end

theorem colorEntriesAt_of_group {path : String} {members : List (String × Json)}
    (h : Node.ofJson (.object members) = .group members) :
    colorEntriesAt path (.object members) = colorEntriesBelow path members := by
  have h : Node.ofMembers members = .group members := h
  simp [colorEntriesAt, h]

theorem colorGroupsAt_of_group {path : String} {members : List (String × Json)}
    (h : Node.ofJson (.object members) = .group members)
    (before : List (List String × String)) :
    colorGroupsAt before path (.object members) =
      ⟨before, colorEntriesBelow path members⟩ :: colorGroupsBelow before path members := by
  have h : Node.ofMembers members = .group members := h
  simp [colorGroupsAt, h]

/-- A group is merged as a tree of its own. -/
theorem nodeInto_of_group {path : String} {members : List (String × Json)}
    (h : Node.ofJson (.object members) = .group members) (result : Tree String) :
    nodeInto path result (.object members) = result.merge (colors path members) := by
  have h : Node.ofMembers members = .group members := h
  simp [nodeInto, h, colors]

/-- Any other node inserts its color, if it is one. -/
theorem nodeInto_of_no_group {path : String} {value : Json}
    (h : ∀ members, Node.ofJson value ≠ .group members) (result : Tree String) :
    nodeInto path result value = result.insertAll (colorEntriesAt path value) := by
  cases value with
  | object members =>
      cases kind : Node.ofMembers members with
      | group children => exact absurd kind (h children)
      | color value =>
          simp only [nodeInto, kind, colorEntriesAt]
          cases Key.segments path with
          | nil => rfl
          | cons first more => rfl
      | _ => simp [nodeInto, kind, colorEntriesAt]
  | _ => simp [nodeInto, colorEntriesAt]

theorem settledEntriesAt_of_no_group {path : String} {value : Json}
    (h : ∀ members, Node.ofJson value ≠ .group members) :
    settledEntriesAt path value = colorEntriesAt path value := by
  unfold settledEntriesAt
  cases kind : Node.ofJson value with
  | group members => exact absurd kind (h members)
  | _ => rfl

theorem settledEntriesAt_of_group {path : String} {members : List (String × Json)}
    (h : Node.ofJson (.object members) = .group members) :
    settledEntriesAt path (.object members) = (colors path members).leaves := by
  simp [settledEntriesAt, h]

/-- Any other node has at most one color, which stands at the segments of its path. -/
theorem colorEntriesAt_of_no_group {path : String} {value : Json}
    (h : ∀ members, Node.ofJson value ≠ .group members) :
    colorEntriesAt path value = [] ∨ ∃ color, Node.ofJson value = .color color ∧
      Key.segments path ≠ [] ∧ colorEntriesAt path value = [(Key.segments path, color)] := by
  cases value with
  | object members =>
      cases kind : Node.ofMembers members with
      | group children => exact absurd kind (h children)
      | color color =>
          by_cases unnamed : Key.segments path = []
          · left
            simp only [colorEntriesAt, kind, if_pos unnamed]
          · right
            refine ⟨color, kind, unnamed, ?_⟩
            simp only [colorEntriesAt, kind, if_neg unnamed]
      | _ => simp [colorEntriesAt, kind]
  | _ => simp [colorEntriesAt]

theorem colorGroupsAt_of_no_group {path : String} {value : Json}
    (h : ∀ members, Node.ofJson value ≠ .group members)
    (before : List (List String × String)) : colorGroupsAt before path value = [] := by
  cases value with
  | object members =>
      cases kind : Node.ofMembers members with
      | group children => exact absurd kind (h children)
      | _ => simp [colorGroupsAt, kind]
  | _ => simp [colorGroupsAt]

/-- A color of a section is a clean value at the segments of a name. -/
def Named (entry : List String × String) : Prop :=
  entry.1 ≠ [] ∧ (∃ name, entry.1 = Key.segments name) ∧ ∃ raw, entry.2 = Color.clean raw

theorem colorEntries_named :
    (∀ value path, ∀ entry ∈ colorEntriesAt path value, Named entry) ∧
      ∀ nodes parent, ∀ entry ∈ colorEntriesBelow parent nodes, Named entry := by
  apply visitInduction
  case group =>
    intro path members h ih
    rwa [colorEntriesAt_of_group h]
  case other =>
    intro path value h entry mem
    rcases colorEntriesAt_of_no_group h with none_there | ⟨color, kind, named, one⟩
    · rw [none_there] at mem
      exact absurd mem List.not_mem_nil
    · have checked := Node.checked_ofJson value
      rw [kind] at checked
      rw [one, List.mem_singleton] at mem
      rw [mem]
      exact ⟨named, ⟨path, rfl⟩, checked⟩
  case nil => simp [colorEntriesBelow]
  case cons =>
    intro parent name value rest own others entry mem
    rw [colorEntriesBelow, List.mem_append] at mem
    exact mem.elim (own entry) (others entry)

/-- A color has a path of at least one segment. -/
theorem colorEntries_nonempty :
    (∀ value path, ∀ entry ∈ colorEntriesAt path value, entry.1 ≠ []) ∧
      ∀ nodes parent, ∀ entry ∈ colorEntriesBelow parent nodes, entry.1 ≠ [] :=
  ⟨fun value path entry mem => (colorEntries_named.1 value path entry mem).1,
    fun nodes parent entry mem => (colorEntries_named.2 nodes parent entry mem).1⟩

/-- Reading keeps trees free of repeated names and of empty subtrees, and a node adds its
settled colors to what was read before. -/
theorem nodesInto_settled :
    (∀ value path, ∀ result : Tree String,
      nodeInto path result value = result.insertAll (settledEntriesAt path value)) ∧
    ∀ nodes parent, (∀ result : Tree String,
        nodesInto parent result nodes = result.insertAll (settledEntries parent nodes)) ∧
      (colors parent nodes).Distinct ∧ (colors parent nodes).Full := by
  apply visitInduction
  case group =>
    intro path members h ih result
    rw [nodeInto_of_group h, settledEntriesAt_of_group h,
      Tree.merge_eq_insertAll ih.2.2]
  case other =>
    intro path value h result
    rw [nodeInto_of_no_group h, settledEntriesAt_of_no_group h]
  case nil => exact fun _ => ⟨fun _ => rfl, trivial, trivial⟩
  case cons =>
    intro parent name value rest own others
    have inserted : ∀ result : Tree String,
        nodesInto parent result ((name, value) :: rest) =
          result.insertAll (settledEntries parent ((name, value) :: rest)) := by
      intro result
      rw [nodesInto, own, others.1, ← Tree.insertAll_append]
      rfl
    refine ⟨inserted, ?_, ?_⟩
    · rw [colors, inserted]
      exact Tree.distinct_nil.insertAll _
    · rw [colors, inserted]
      exact Tree.full_nil.insertAll _

theorem colors_eq_insertAll_settledEntries (parent : String) (nodes : List (String × Json)) :
    colors parent nodes = Tree.insertAll .nil (settledEntries parent nodes) :=
  (nodesInto_settled.2 nodes parent).1 .nil

theorem colors_distinct (parent : String) (nodes : List (String × Json)) :
    (colors parent nodes).Distinct :=
  (nodesInto_settled.2 nodes parent).2.1

theorem colors_full (parent : String) (nodes : List (String × Json)) :
    (colors parent nodes).Full :=
  (nodesInto_settled.2 nodes parent).2.2

/-- What a node adds are colors at it or below it. -/
theorem settledEntries_subset :
    (∀ value path, settledEntriesAt path value ⊆ colorEntriesAt path value) ∧
      ∀ nodes parent, settledEntries parent nodes ⊆ colorEntriesBelow parent nodes ∧
        (colors parent nodes).leaves ⊆ colorEntriesBelow parent nodes := by
  apply visitInduction
  case group =>
    intro path members h ih
    rw [settledEntriesAt_of_group h, colorEntriesAt_of_group h]
    exact ih.2
  case other =>
    intro path value h
    rw [settledEntriesAt_of_no_group h]
    exact List.Subset.refl _
  case nil => simp [settledEntries, colorEntriesBelow]
  case cons =>
    intro parent name value rest own others
    have added : settledEntries parent ((name, value) :: rest) ⊆
        colorEntriesBelow parent ((name, value) :: rest) := by
      intro entry mem
      rw [settledEntries, List.flatMap_cons, List.mem_append] at mem
      rw [colorEntriesBelow, List.mem_append]
      exact mem.imp (@own entry) (@others.1 entry)
    refine ⟨added, ?_⟩
    rintro ⟨path, kept⟩ mem
    rw [Tree.mem_leaves_iff (colors_distinct ..), colors_eq_insertAll_settledEntries] at mem
    have nonempty : ∀ entry ∈ settledEntries parent ((name, value) :: rest), entry.1 ≠ [] :=
      fun entry h => colorEntries_nonempty.2 _ _ entry (added h)
    exact added (mem_of_lastValue?_eq_some
      (Tree.lastValue?_eq_some_of_leafAt?_insertAll nonempty mem))

/-- Every leaf of the tree is a color of the section. -/
theorem leaves_colors_subset (parent : String) (nodes : List (String × Json)) :
    (colors parent nodes).leaves ⊆ colorEntriesBelow parent nodes :=
  (settledEntries_subset.2 nodes parent).2

/-- Where every group is settled, reading inserts the colors in the order of their visit. -/
theorem nodesInto_of_settled :
    (∀ value path, ∀ (before : List (List String × String)) (result : Tree String),
      result.Full → result.LeavesIn before →
      (∀ group ∈ colorGroupsAt before path value, group.Settled) →
      nodeInto path result value = result.insertAll (colorEntriesAt path value)) ∧
    ∀ nodes parent, ∀ (before : List (List String × String)) (result : Tree String),
      result.Full → result.LeavesIn before →
      (∀ group ∈ colorGroupsBelow before parent nodes, group.Settled) →
      nodesInto parent result nodes = result.insertAll (colorEntriesBelow parent nodes) := by
  apply visitInduction
  case group =>
    intro path members h ih before result full known settled
    rw [colorGroupsAt_of_group h] at settled
    -- The group is read into an empty tree, so the colors visited before it stay the bound.
    have inner : colors path members = Tree.insertAll .nil (colorEntriesBelow path members) :=
      ih before .nil Tree.full_nil (Tree.leavesIn_nil before) fun group mem =>
        settled group (List.mem_cons_of_mem _ mem)
    have own : ColorGroup.Settled ⟨before, colorEntriesBelow path members⟩ :=
      settled _ List.mem_cons_self
    rw [nodeInto_of_group h, colorEntriesAt_of_group h, inner]
    apply Tree.merge_insertAll full (colorEntries_nonempty.2 members path)
    refine own.imp fun {first later} free above below leads => ?_
    exact known.leafAt?_eq_none_of_above (free above) leads
  case other =>
    intro path value h before result _ _ _
    exact nodeInto_of_no_group h result
  case nil => exact fun _ _ _ _ _ _ => rfl
  case cons =>
    intro parent name value rest own others before result full known settled
    rw [colorGroupsBelow] at settled
    rw [nodesInto, own before result full known
        (fun group mem => settled group (List.mem_append_left _ mem)),
      colorEntriesBelow, Tree.insertAll_append]
    exact others (before ++ colorEntriesAt (Key.joinPath parent name) value) _
      (full.insertAll _) (known.insertAll (colorEntries_nonempty.1 value _))
      fun group mem => settled group (List.mem_append_right _ mem)

/-- The order of a color section. Reading it inserts the settled colors of its nodes one
by one, and a path has the value of a color at it. If no group opens a path that it closed
while an earlier color lies below, this is the order of the visit: the colors are inserted
one by one, each path has the value of the last color at it, and below a color there is
nothing that was visited before the color. -/
theorem colors_last_writer (parent : String) (nodes : List (String × Json)) :
    colors parent nodes = Tree.insertAll .nil (settledEntries parent nodes) ∧
    (∀ path value, (colors parent nodes).leafAt? path = some value →
      (path, value) ∈ colorEntriesBelow parent nodes) ∧
    ((∀ group ∈ colorGroupsBelow [] parent nodes, group.Settled) →
      colors parent nodes = Tree.insertAll .nil (colorEntriesBelow parent nodes) ∧
      (∀ path value, (colors parent nodes).leafAt? path = some value →
        lastValue? path (colorEntriesBelow parent nodes) = some value) ∧
      ∀ before path value after,
        colorEntriesBelow parent nodes = before ++ (path, value) :: after →
        ∀ below kept, Above path below →
          (colors parent nodes).leafAt? below = some kept → (below, kept) ∈ after) := by
  refine ⟨colors_eq_insertAll_settledEntries parent nodes, ?_, fun settled => ?_⟩
  · intro path value found
    rw [← Tree.mem_leaves_iff (colors_distinct parent nodes)] at found
    exact leaves_colors_subset parent nodes found
  have nonempty := colorEntries_nonempty.2 nodes parent
  have flat : colors parent nodes = Tree.insertAll .nil (colorEntriesBelow parent nodes) :=
    nodesInto_of_settled.2 nodes parent [] .nil Tree.full_nil (Tree.leavesIn_nil []) settled
  refine ⟨flat, ?_, ?_⟩
  · intro path value found
    rw [flat] at found
    exact Tree.lastValue?_eq_some_of_leafAt?_insertAll nonempty found
  · intro before path value after split below kept above found
    rw [flat, split] at found
    rw [split] at nonempty
    exact Tree.mem_of_leafAt?_below nonempty above found

/-- Two groups whose colors share paths: the second one closes a path below which the
first one has a color. -/
def overlappingGroups : List (String × Json) := [
  ("x", .object [
    ("a", leafNode "color" (.string "#000001")),
    ("a-b", leafNode "color" (.string "#000002"))]),
  ("X", .object [
    ("c", leafNode "color" (.string "#000003")),
    ("a", leafNode "color" (.string "#000004FF"))])]

theorem colors_last_writer_overlappingGroups :
    (∀ group ∈ colorGroupsBelow [] "" overlappingGroups, group.Settled) ∧
    colors "" overlappingGroups =
      Tree.insertAll .nil (colorEntriesBelow "" overlappingGroups) ∧
    colorEntriesBelow "" overlappingGroups =
      [(["x", "a"], "#000001"), (["x", "a", "b"], "#000002"), (["x", "c"], "#000003"),
        (["x", "a"], "#000004")] := by
  have settled : ∀ group ∈ colorGroupsBelow [] "" overlappingGroups, group.Settled := by decide
  exact ⟨settled, ((colors_last_writer "" overlappingGroups).2.2 settled).1, by decide⟩

/-- The second group closes the path of `a`, under which the first one has a color, and
opens it again. -/
def reopenedGroup : List (String × Json) := [
  ("x", .object [("a", .object [("c", leafNode "color" (.string "#000003"))])]),
  ("X", .object [
    ("a-c", leafNode "color" (.string "#000009")),
    ("a", leafNode "color" (.string "#000001")),
    ("a-b", leafNode "color" (.string "#000002"))])]

/-- In a group that is not settled an earlier color outlives two later ones that meet it:
one at its own path and one above. -/
theorem colors_ne_insertAll_reopenedGroup :
    colors "" reopenedGroup ≠ Tree.insertAll .nil (colorEntriesBelow "" reopenedGroup) ∧
    (colors "" reopenedGroup).leafAt? ["x", "a", "c"] = some "#000003" ∧
    lastValue? ["x", "a", "c"] (colorEntriesBelow "" reopenedGroup) = some "#000009" ∧
    (Tree.insertAll .nil (colorEntriesBelow "" reopenedGroup)).leafAt? ["x", "a", "c"] =
      none := by
  decide

end DesignTokens.Export
