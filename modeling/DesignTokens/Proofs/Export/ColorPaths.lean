import DesignTokens.Proofs.Export.ColorOrder
import DesignTokens.Proofs.Export.GradientOrder

/-!
# The paths of colors

The names that lead to a color are joined with hyphens before they are cut into segments. The joined
text has the segments of each name in turn, also where a name is empty or has no segment of its
own, so a color section is read in the same way if the names are kept apart and each of them is cut
by itself.
-/

namespace DesignTokens.Export

section Cuts

/-- The segments of a name are what stands between the hyphens of its kebab form. -/
theorem segments_eq_splitOn (name : String) :
    Key.segments name =
      (((Key.kebab name).toList.splitOn '-').filter (· ≠ [])).map String.ofList := by
  have unmarked : ∀ text ∈ (Key.segments name).map String.toList, text ≠ [] ∧ '-' ∉ text := by
    rw [List.forall_mem_map]
    intro segment mem
    obtain ⟨nonempty, inside⟩ := Key.plain_of_mem_segments mem
    constructor
    · simpa using nonempty
    · exact fun mark => absurd (inside '-' mark) (by decide)
  rw [Key.kebab, String.toList_intercalate]
  cases found : Key.segments name with
  | nil => simp [List.splitOn_nil]
  | cons first others =>
      rw [found] at unmarked
      have cut : (['-'].intercalate ((first :: others).map String.toList)).splitOn '-' =
          (first :: others).map String.toList :=
        List.splitOn_intercalate '-' (fun text mem => (unmarked text mem).2) (by simp)
      have kept : ((first :: others).map String.toList).filter (· ≠ []) =
          (first :: others).map String.toList :=
        List.filter_eq_self.mpr fun text mem => by simpa using (unmarked text mem).1
      change first :: others =
        (((['-'].intercalate ((first :: others).map String.toList)).splitOn '-').filter
          (· ≠ [])).map String.ofList
      rw [cut, kept, List.map_map]
      simp [Function.comp_def]

end Cuts

section Reader

mutual

/-- Put what stands at the end of an address into a tree. The names of the address are cut into
segments one by one, and `above` are the segments that all addresses stand below. -/
def placeAt (above address : List String) (result : Tree String) : Json → Tree String
  | .object members =>
    match Node.ofMembers members with
    | .color value => result.insertLeaf (above ++ address.flatMap Key.segments, value)
    | .group _ => result.merge (placeBelow above address .nil members)
    | _ => result
  | _ => result

/-- Put the colors of the nodes at an address into a tree. -/
def placeBelow (above address : List String) (result : Tree String) :
    List (String × Json) → Tree String
  | [] => result
  | (name, value) :: rest =>
    placeBelow above address (placeAt above (address ++ [name]) result value) rest

end

theorem placeAt_of_group {above address : List String} {members : List (String × Json)}
    (h : Node.ofJson (.object members) = .group members) (result : Tree String) :
    placeAt above address result (.object members) =
      result.merge (placeBelow above address .nil members) := by
  have h : Node.ofMembers members = .group members := h
  simp [placeAt, h]

/-- Where the joined path has the segments of the address, a node is put at the same place. -/
theorem placeAt_of_no_group {path : String} {above address : List String} {value : Json}
    (h : ∀ members, Node.ofJson value ≠ .group members)
    (same : Key.segments path = above ++ address.flatMap Key.segments) (result : Tree String) :
    placeAt above address result value = nodeInto path result value := by
  cases value with
  | object members =>
      cases kind : Node.ofMembers members with
      | group children => exact absurd kind (h children)
      | color value =>
          simp only [placeAt, nodeInto, kind, ← same]
          cases Key.segments path with
          | nil => rfl
          | cons first more => rfl
      | _ => simp [placeAt, nodeInto, kind]
  | _ => simp [placeAt, nodeInto]

/-- A section is read in the same way from the joined names and from the names one by one. -/
theorem place_eq_into :
    (∀ value path above address result,
      Key.segments path = above ++ address.flatMap Key.segments →
      placeAt above address result value = nodeInto path result value) ∧
    ∀ nodes parent above address result,
      Key.segments parent = above ++ address.flatMap Key.segments →
      placeBelow above address result nodes = nodesInto parent result nodes := by
  apply visitInduction
  case group =>
    intro path members h ih above address result same
    rw [placeAt_of_group h, nodeInto_of_group h, colors, ih above address .nil same]
  case other =>
    intro path value h above address result same
    exact placeAt_of_no_group h same result
  case nil => exact fun _ _ _ _ _ => rfl
  case cons =>
    intro parent name value rest own others above address result same
    have longer : Key.segments (Key.joinPath parent name) =
        above ++ (address ++ [name]).flatMap Key.segments := by
      rw [Key.segments_joinPath, same, List.flatMap_append, List.flatMap_singleton,
        List.append_assoc]
    rw [placeBelow, nodesInto, own above (address ++ [name]) result longer,
      others above address _ same]

/-- A node that is no group has its own color, if it is named, and no other. -/
theorem mem_colorEntriesAt_of_no_group {path : String} {value : Json}
    (h : ∀ members, Node.ofJson value ≠ .group members) {entry : List String × String} :
    entry ∈ colorEntriesAt path value ↔
      entry.1 ≠ [] ∧ Node.ofJson value = .color entry.2 ∧ entry.1 = Key.segments path := by
  obtain ⟨place, color⟩ := entry
  cases value with
  | object members =>
      change _ ↔ _ ∧ Node.ofMembers members = .color color ∧ _
      cases kind : Node.ofMembers members with
      | group children => exact absurd kind (h children)
      | color found =>
          by_cases unnamed : Key.segments path = []
          · simp only [colorEntriesAt, kind, if_pos unnamed]
            constructor
            · exact fun mem => absurd mem List.not_mem_nil
            · rintro ⟨named, -, same⟩
              exact absurd (same.trans unnamed) named
          · simp only [colorEntriesAt, kind, if_neg unnamed, List.mem_singleton, Prod.mk.injEq,
              Node.color.injEq]
            constructor
            · rintro ⟨rfl, rfl⟩
              exact ⟨unnamed, rfl, rfl⟩
            · rintro ⟨-, rfl, rfl⟩
              exact ⟨rfl, rfl⟩
      | _ => simp [colorEntriesAt, kind]
  | _ => simp [colorEntriesAt, Node.ofJson]

/-- The colors of a section are found at the ends of the addresses that lead to them. -/
theorem mem_colorEntries_iff :
    (∀ value path entry, entry ∈ colorEntriesAt path value ↔ entry.1 ≠ [] ∧
      ((Node.ofJson value = .color entry.2 ∧ entry.1 = Key.segments path) ∨
        ∃ children, Node.ofJson value = .group children ∧
          ∃ address node, Reached children address node ∧ Node.ofJson node = .color entry.2 ∧
            entry.1 = Key.segments path ++ address.flatMap Key.segments)) ∧
    ∀ nodes parent entry, entry ∈ colorEntriesBelow parent nodes ↔ entry.1 ≠ [] ∧
      ∃ address node, Reached nodes address node ∧ Node.ofJson node = .color entry.2 ∧
        entry.1 = Key.segments parent ++ address.flatMap Key.segments := by
  apply visitInduction
  case group =>
    intro path members h ih entry
    rw [colorEntriesAt_of_group h, ih]
    simp [h]
  case other =>
    intro path value h entry
    simp only [h, false_and, exists_false, or_false]
    rw [mem_colorEntriesAt_of_no_group h]
  case nil => simp [colorEntriesBelow, not_reached_nil]
  case cons =>
    intro parent name value rest own others entry
    simp only [colorEntriesBelow, List.mem_append, own, others, Key.segments_joinPath]
    constructor
    · rintro (⟨named, ⟨kind, placed⟩ | ⟨children, group, address, node, inside, kind, placed⟩⟩ |
        ⟨named, address, node, reached, kind, placed⟩)
      · exact ⟨named, [name], value, .here List.mem_cons_self, kind, by simpa using placed⟩
      · exact ⟨named, name :: address, node, .within List.mem_cons_self group inside, kind,
          by simpa using placed⟩
      · exact ⟨named, address, node, reached_cons_iff.mpr (Or.inr (Or.inr reached)), kind, placed⟩
    · rintro ⟨named, address, node, reached, kind, placed⟩
      rcases reached_cons_iff.mp reached with
        ⟨rfl, rfl⟩ | ⟨children, inner, rfl, group, inside⟩ | later
      · exact Or.inl ⟨named, Or.inl ⟨kind, by simpa using placed⟩⟩
      · exact Or.inl ⟨named, Or.inr ⟨children, group, inner, node, inside, kind,
          by simpa using placed⟩⟩
      · exact Or.inr ⟨named, address, node, later, kind, placed⟩

/-- Names are cut into segments one by one, although they are joined before. The segments of a path
are what stands between the hyphens of its kebab form, and they are the segments of each joined
name in turn, whatever the names are. A color section is therefore read as if its names were kept
apart: each color is inserted at the segments of the names that lead to it, below those of the
parent, and nothing else is inserted. -/
theorem colors_placed_by_segments :
    (∀ name, Key.segments name =
      (((Key.kebab name).toList.splitOn '-').filter (· ≠ [])).map String.ofList) ∧
    (∀ names : List String,
      Key.segments (names.foldl Key.joinPath "") = names.flatMap Key.segments) ∧
    (∀ parent (names : List String), Key.segments (names.foldl Key.joinPath parent) =
      Key.segments parent ++ names.flatMap Key.segments) ∧
    (∀ parent nodes, colors parent nodes = placeBelow (Key.segments parent) [] .nil nodes) ∧
    (∀ parent nodes path value, (path, value) ∈ colorEntriesBelow parent nodes ↔ path ≠ [] ∧
      ∃ address node, Reached nodes address node ∧ Node.ofJson node = .color value ∧
        path = Key.segments parent ++ address.flatMap Key.segments) ∧
    ∀ parent nodes, (colors parent nodes).leaves ⊆ colorEntriesBelow parent nodes := by
  refine ⟨segments_eq_splitOn, ?_, Key.segments_foldl_joinPath, ?_, ?_, leaves_colors_subset⟩
  · intro names
    rw [Key.segments_foldl_joinPath, Key.segments_empty, List.nil_append]
  · intro parent nodes
    have same : Key.segments parent = Key.segments parent ++ [].flatMap Key.segments := by
      rw [List.flatMap_nil, List.append_nil]
    rw [colors, place_eq_into.2 nodes parent _ [] .nil same]
  · exact fun parent nodes path value => mem_colorEntries_iff.2 nodes parent (path, value)

/-- Names that are empty, have no segment or have several, on the way to a color. -/
def unnamedGroups : List (String × Json) := [
  ("", .object [("skyblueBase", leafNode "color" (.string "#0000ffff"))]),
  ("??", .object [("Gray  50", leafNode "color" (.string "#808080"))])]

theorem colors_placed_by_segments_unnamedGroups :
    colors "_brand" unnamedGroups =
      .node "brand" (.node "skyblue" (.leaf "base" "#0000ff" .nil)
        (.node "gray" (.leaf "50" "#808080" .nil) .nil)) .nil ∧
    ∃ address node, Reached unnamedGroups address node ∧ Node.ofJson node = .color "#808080" ∧
      ["brand", "gray", "50"] = Key.segments "_brand" ++ address.flatMap Key.segments := by
  have read : colors "_brand" unnamedGroups =
      .node "brand" (.node "skyblue" (.leaf "base" "#0000ff" .nil)
        (.node "gray" (.leaf "50" "#808080" .nil) .nil)) .nil := by decide
  obtain ⟨-, -, -, -, placed, listed⟩ := colors_placed_by_segments
  have leaf : (["brand", "gray", "50"], "#808080") ∈ (colors "_brand" unnamedGroups).leaves := by
    rw [read]
    decide
  exact ⟨read, ((placed _ _ _ _).mp (listed _ _ leaf)).2⟩

end Reader

end DesignTokens.Export
