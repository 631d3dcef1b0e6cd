import DesignTokens.Proofs.Export.ColorOrder
import DesignTokens.Proofs.Key.Segments
import DesignTokens.Proofs.Tree.PrefixFree

/-!
# Colors whose paths do not clash

If no color stands above another one, no color is lost: the tree has exactly the paths of
the section, each with the last value given to it. How the colors are grouped and ordered
then matters for nothing but the order of the leaves.
-/

namespace DesignTokens.Export

/-- The names on the way to a color are plain. -/
theorem plain_of_mem_colors {parent : String} {nodes : List (String × Json)}
    {entry : List String × String} (mem : entry ∈ (colors parent nodes).leaves) :
    ∀ segment ∈ entry.1, Key.Plain segment := by
  obtain ⟨_, ⟨name, here⟩, _⟩ :=
    colorEntries_named.2 nodes parent entry (leaves_colors_subset parent nodes mem)
  intro segment inside
  exact Key.plain_of_mem_segments (here ▸ inside)

/-- The colors of a group are colors of the section. -/
theorem own_subset_of_mem_colorGroups :
    (∀ value path, ∀ before, ∀ group ∈ colorGroupsAt before path value,
      group.own ⊆ colorEntriesAt path value) ∧
    ∀ nodes parent, ∀ before, ∀ group ∈ colorGroupsBelow before parent nodes,
      group.own ⊆ colorEntriesBelow parent nodes := by
  apply visitInduction
  case group =>
    intro path members h ih before group mem
    rw [colorEntriesAt_of_group h]
    rw [colorGroupsAt_of_group h, List.mem_cons] at mem
    rcases mem with rfl | mem
    · exact List.Subset.refl _
    · exact ih before group mem
  case other =>
    intro path value h before group mem
    rw [colorGroupsAt_of_no_group h] at mem
    exact absurd mem List.not_mem_nil
  case nil => simp [colorGroupsBelow]
  case cons =>
    intro parent name value rest own others before group mem entry here
    rw [colorGroupsBelow, List.mem_append] at mem
    rw [colorEntriesBelow, List.mem_append]
    rcases mem with mem | mem
    · exact Or.inl (own before group mem here)
    · exact Or.inr (others _ group mem here)

/-- Where no path is above another one every group is settled. -/
theorem settled_of_prefixFree {parent : String} {nodes : List (String × Json)}
    (free : PrefixFree (colorEntriesBelow parent nodes)) (before : List (List String × String)) :
    ∀ group ∈ colorGroupsBelow before parent nodes, group.Settled := by
  intro group mem
  apply List.pairwise_of_forall_mem_list
  intro first here later there above
  have within := own_subset_of_mem_colorGroups.2 nodes parent before group mem
  exact absurd above (free first (within here) later (within there))

/-- Colors whose paths do not clash are inserted in the order of their visit. -/
theorem colors_of_prefixFree {parent : String} {nodes : List (String × Json)}
    (free : PrefixFree (colorEntriesBelow parent nodes)) :
    colors parent nodes = Tree.insertAll .nil (colorEntriesBelow parent nodes) :=
  nodesInto_of_settled.2 nodes parent [] .nil Tree.full_nil (Tree.leavesIn_nil [])
    (settled_of_prefixFree free [])

theorem mem_leaves_colors_iff {parent : String} {nodes : List (String × Json)}
    (free : PrefixFree (colorEntriesBelow parent nodes)) (path : List String) (value : String) :
    (path, value) ∈ (colors parent nodes).leaves ↔
      lastValue? path (colorEntriesBelow parent nodes) = some value := by
  rw [colors_of_prefixFree free]
  exact Tree.mem_leaves_insertAll_iff (colorEntries_nonempty.2 nodes parent) free path value

/-- The paths of the tree are the paths of the section. -/
theorem mem_paths_colors_iff {parent : String} {nodes : List (String × Json)}
    (free : PrefixFree (colorEntriesBelow parent nodes)) (path : List String) :
    path ∈ (colors parent nodes).leaves.map Prod.fst ↔
      path ∈ (colorEntriesBelow parent nodes).map Prod.fst := by
  constructor
  · intro listed
    obtain ⟨entry, mem, rfl⟩ := List.mem_map.mp listed
    exact List.mem_map_of_mem (leaves_colors_subset parent nodes mem)
  · intro occurs
    cases found : lastValue? path (colorEntriesBelow parent nodes) with
    | none => exact absurd occurs (lastValue?_eq_none_iff.mp found)
    | some value =>
        have mem := (mem_leaves_colors_iff free path value).mpr found
        exact List.mem_map_of_mem (f := Prod.fst) mem

/-- Sections of the same colors, each at a path of its own, have the same leaves. -/
theorem leaves_colors_perm {parent otherParent : String} {nodes others : List (String × Json)}
    (free : PrefixFree (colorEntriesBelow parent nodes))
    (nodup : ((colorEntriesBelow parent nodes).map Prod.fst).Nodup)
    (otherNodup : ((colorEntriesBelow otherParent others).map Prod.fst).Nodup)
    (same : ∀ entry, entry ∈ colorEntriesBelow otherParent others ↔
      entry ∈ colorEntriesBelow parent nodes) :
    (colors otherParent others).leaves.Perm (colors parent nodes).leaves := by
  have otherFree : PrefixFree (colorEntriesBelow otherParent others) :=
    free.mono fun entry mem => (same entry).mp mem
  have once := List.Nodup.of_map _ (Tree.nodup_leaves (colors_distinct otherParent others))
  have again := List.Nodup.of_map _ (Tree.nodup_leaves (colors_distinct parent nodes))
  rw [List.perm_ext_iff_of_nodup once again]
  rintro ⟨path, value⟩
  calc
    (path, value) ∈ (colors otherParent others).leaves
      ↔ lastValue? path (colorEntriesBelow otherParent others) = some value :=
        mem_leaves_colors_iff otherFree path value
    _ ↔ (path, value) ∈ colorEntriesBelow otherParent others :=
        lastValue?_eq_some_iff_mem otherNodup path value
    _ ↔ (path, value) ∈ colorEntriesBelow parent nodes := same (path, value)
    _ ↔ lastValue? path (colorEntriesBelow parent nodes) = some value :=
        (lastValue?_eq_some_iff_mem nodup path value).symm
    _ ↔ (path, value) ∈ (colors parent nodes).leaves :=
        (mem_leaves_colors_iff free path value).symm

/-- No color is lost or invented where no path is above another one. Each path of the
section is listed once, with the value of the last color at it, and nothing else is listed.
If the paths are pairwise distinct, every section of the same colors has the same leaves,
however it groups and orders them. -/
theorem leaves_colors_of_prefixFree (parent : String) (nodes : List (String × Json))
    (free : PrefixFree (colorEntriesBelow parent nodes)) :
    ((colors parent nodes).leaves.map Prod.fst).Nodup ∧
    (∀ path, path ∈ (colors parent nodes).leaves.map Prod.fst ↔
      path ∈ (colorEntriesBelow parent nodes).map Prod.fst) ∧
    (∀ path value, (path, value) ∈ (colors parent nodes).leaves ↔
      lastValue? path (colorEntriesBelow parent nodes) = some value) ∧
    (((colorEntriesBelow parent nodes).map Prod.fst).Nodup →
      ∀ otherParent others, ((colorEntriesBelow otherParent others).map Prod.fst).Nodup →
        (∀ entry, entry ∈ colorEntriesBelow otherParent others ↔
          entry ∈ colorEntriesBelow parent nodes) →
        (colors otherParent others).leaves.Perm (colors parent nodes).leaves) := by
  refine ⟨Tree.nodup_leaves (colors_distinct parent nodes), mem_paths_colors_iff free,
    mem_leaves_colors_iff free, ?_⟩
  intro nodup otherParent others otherNodup same
  exact leaves_colors_perm free nodup otherNodup same

/-- Sibling groups whose names begin with the same segments. -/
def siblingGroups : List (String × Json) := [
  ("primary", .object [
    ("skyblueBase", .object [("100", leafNode "color" (.string "#E0F2FEFF"))]),
    ("skyblueLight", .object [("100", leafNode "color" (.string "#F0F9FF"))])]),
  ("Primary sky", .object [("blue-dark", leafNode "color" (.string "#0C4A6E"))])]

/-- The colors of `siblingGroups` in another order and without the groups. -/
def flatSiblings : List (String × Json) := [
  ("primary-sky-blue-dark", leafNode "color" (.string "#0C4A6E")),
  ("primary/skyblue/light/100", leafNode "color" (.string "#F0F9FF")),
  ("primarySkyblueBase_100", leafNode "color" (.string "#E0F2FE"))]

theorem leaves_colors_of_prefixFree_siblingGroups :
    PrefixFree (colorEntriesBelow "" siblingGroups) ∧
    (colors "" flatSiblings).leaves.Perm (colors "" siblingGroups).leaves ∧
    colors "" flatSiblings ≠ colors "" siblingGroups ∧
    (colors "" siblingGroups).leaves = [
      (["primary", "skyblue", "base", "100"], "#E0F2FE"),
      (["primary", "skyblue", "light", "100"], "#F0F9FF"),
      (["primary", "sky", "blue", "dark"], "#0C4A6E")] := by
  have free : PrefixFree (colorEntriesBelow "" siblingGroups) := by decide
  have same : (colorEntriesBelow "" flatSiblings).Perm (colorEntriesBelow "" siblingGroups) :=
    List.isPerm_iff.mp (by decide)
  obtain ⟨_, _, _, regroup⟩ := leaves_colors_of_prefixFree "" siblingGroups free
  refine ⟨free, ?_, by decide, by decide⟩
  exact regroup (by decide) "" flatSiblings (by decide) fun entry => same.mem_iff

end DesignTokens.Export
