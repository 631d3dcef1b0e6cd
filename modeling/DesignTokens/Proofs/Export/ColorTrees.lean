import DesignTokens.Proofs.Format.SameColors
import DesignTokens.Proofs.StoredTokens
import DesignTokens.Proofs.Tree.Each

/-!
# Trees of colors

The tree of a color section has plain names at all levels, clean values at its leaves, no name twice
in a level and no empty subtree. Setting a color and merging two trees keep such trees, so they
are kept however colors and groups follow each other in a section. Nodes that are no colors, colors
without a segment and groups of nothing else leave the tree as it is.
-/

namespace DesignTokens.Export

/-- What holds of the tree of a color section. -/
structure ColorTree (tree : Tree String) : Prop where
  each : tree.Each Key.Plain fun value => Color.clean value = value
  full : tree.Full
  distinct : tree.Distinct

namespace ColorTree

theorem nil : ColorTree .nil where
  each := Tree.each_nil
  full := Tree.full_nil
  distinct := Tree.distinct_nil

/-- A clean color is set at plain names. -/
theorem setAt {tree : Tree String} (good : ColorTree tree) {first : String} {more : List String}
    (plain : ∀ segment ∈ first :: more, Key.Plain segment) {value : String}
    (clean : Color.clean value = value) : ColorTree (tree.setAt first more (.leaf value)) where
  each := good.each.setAt plain clean
  full := good.full.insertLeaf (first :: more, value)
  distinct := good.distinct.insertLeaf (first :: more, value)

theorem merge {target source : Tree String} (good : ColorTree target) (given : ColorTree source) :
    ColorTree (target.merge source) where
  each := given.each.merge good.each
  full := by
    rw [Tree.merge_eq_insertAll given.full]
    exact good.full.insertAll _
  distinct := by
    rw [Tree.merge_eq_insertAll given.full]
    exact good.distinct.insertAll _

/-- A tree without empty subtrees has a first leaf unless it is empty itself. -/
theorem leaves_eq_nil_iff {tree : Tree String} (good : ColorTree tree) :
    tree.leaves = [] ↔ tree = .nil := by
  constructor
  · intro bare
    by_contra occupied
    exact Tree.leaves_ne_nil good.full occupied bare
  · rintro rfl
    rfl

end ColorTree

/-- Each node of a section keeps trees of colors, and so do all of them in turn. -/
theorem colorTree_into :
    (∀ value path result, ColorTree result → ColorTree (nodeInto path result value)) ∧
      ∀ nodes parent result, ColorTree result → ColorTree (nodesInto parent result nodes) := by
  apply visitInduction
  case group =>
    intro path members h ih result good
    rw [nodeInto_of_group h]
    exact good.merge (ih .nil ColorTree.nil)
  case other =>
    intro path value h result good
    rw [nodeInto_of_no_group h]
    rcases @colorEntriesAt_of_no_group path value h with none_there | ⟨color, kind, named, one⟩
    · rwa [none_there]
    · have plain : ∀ segment ∈ Key.segments path, Key.Plain segment :=
        fun _ => Key.plain_of_mem_segments
      have clean : Color.clean color = color := by
        have checked := Node.checked_ofJson value
        rw [kind] at checked
        obtain ⟨raw, rfl⟩ := checked
        exact Color.clean_clean raw
      rw [one]
      cases found : Key.segments path with
      | nil => exact good
      | cons first more =>
          rw [found] at plain
          exact good.setAt plain clean
  case nil => exact fun _ _ good => good
  case cons =>
    intro parent name value rest own others result good
    exact others _ (own result good)

/-- A node leaves a trace in the tree exactly if it is a named color or has one below it. -/
theorem into_eq_nil_iff :
    (∀ value path result,
      nodeInto path result value = .nil ↔ result = .nil ∧ colorEntriesAt path value = []) ∧
    ∀ nodes parent result,
      nodesInto parent result nodes = .nil ↔
        result = .nil ∧ colorEntriesBelow parent nodes = [] := by
  apply visitInduction
  case group =>
    intro path members h ih result
    rw [nodeInto_of_group h, colorEntriesAt_of_group h, Tree.merge_eq_nil_iff, colors, ih]
    simp
  case other =>
    intro path value h result
    rw [nodeInto_of_no_group h]
    rcases @colorEntriesAt_of_no_group path value h with none_there | ⟨color, _, named, one⟩
    · simp [none_there]
    · simp [one, Tree.insertLeaf_ne_nil result named]
  case nil => simp [nodesInto, colorEntriesBelow]
  case cons =>
    intro parent name value rest own others result
    rw [nodesInto, others, own, colorEntriesBelow, List.append_eq_nil_iff, and_assoc]

/-- A node without a named color at it or below it leaves the tree as it is. -/
theorem nodeInto_of_bare {path : String} {value : Json} (bare : colorEntriesAt path value = [])
    (result : Tree String) : nodeInto path result value = result := by
  have settled : settledEntriesAt path value = [] := by
    have within := settledEntries_subset.1 value path
    rw [bare] at within
    exact List.subset_nil.mp within
  rw [nodesInto_settled.1, settled, Tree.insertAll_nil]

theorem colorTree_colors (parent : String) (nodes : List (String × Json)) :
    ColorTree (colors parent nodes) :=
  colorTree_into.2 nodes parent .nil ColorTree.nil

/-- A model has a first color unless its tree of colors is empty. -/
theorem firstColorPath?_model_eq_none_iff (sections : Entries Json) :
    (model sections).firstColorPath? = none ↔ (model sections).colors = .nil := by
  have good := colorTree_colors "" ((section? "color" sections).getD [])
  rw [Model.firstColorPath?, Option.map_eq_none_iff, List.head?_eq_none_iff,
    leaves_colors_model, List.map_eq_nil_iff, colorLeaves, good.leaves_eq_nil_iff, model,
    Tree.map_eq_nil_iff]

/-- The trees that arise while a section is read. The empty tree is one, and setting a clean color
at plain names and merging keep them, so the colors of a section are one. A node without a named
color leaves no trace. The colors are empty only if the section has no named color, and a model
without a first color has no color at all. -/
theorem colors_keep_tree :
    ColorTree .nil ∧
    (∀ tree first more value, ColorTree tree →
      (∀ segment ∈ first :: more, Key.Plain segment) → Color.clean value = value →
      ColorTree (tree.setAt first more (.leaf value))) ∧
    (∀ target source, ColorTree target → ColorTree source → ColorTree (target.merge source)) ∧
    (∀ parent nodes, ColorTree (colors parent nodes)) ∧
    (∀ path value, colorEntriesAt path value = [] →
      ∀ result, nodeInto path result value = result) ∧
    (∀ parent nodes, colors parent nodes = .nil ↔ colorEntriesBelow parent nodes = []) ∧
    ∀ sections, (model sections).firstColorPath? = none ↔ (model sections).colors = .nil := by
  refine ⟨ColorTree.nil, ?_, fun _ _ good given => good.merge given, colorTree_colors, ?_, ?_, ?_⟩
  · exact fun tree first more value good plain clean => good.setAt plain clean
  · exact fun path value bare => nodeInto_of_bare bare
  · intro parent nodes
    simpa [colors] using into_eq_nil_iff.2 nodes parent .nil
  · exact firstColorPath?_model_eq_none_iff

/-- A section of which only one group has a color that counts. -/
def barrenGroups : List (String × Json) := [
  ("empty", .object []),
  ("??", leafNode "color" (.string "#000001")),
  ("brand", .object [
    ("dull", .object [("odd", leafNode "color" (.array []))]),
    ("skyBlue", leafNode "color" (.string "#0000FFff"))])]

theorem colors_keep_tree_barrenGroups :
    colors "" barrenGroups =
      .node "brand" (.node "sky" (.leaf "blue" "#0000FF" .nil) .nil) .nil ∧
    ColorTree ((colors "" barrenGroups).setAt "brand" ["sky"] (.leaf "#000002")) ∧
    ColorTree ((colors "" barrenGroups).merge (colors "x" overlappingGroups)) ∧
    nodeInto "empty" (colors "" barrenGroups) (.object []) = colors "" barrenGroups := by
  obtain ⟨-, set, merged, read, untouched, -⟩ := colors_keep_tree
  refine ⟨by decide, ?_, ?_, ?_⟩
  · exact set _ "brand" ["sky"] "#000002" (read "" barrenGroups) (by decide) (by decide)
  · exact merged _ _ (read "" barrenGroups) (read "x" overlappingGroups)
  · exact untouched "empty" (.object []) (by decide) _

end DesignTokens.Export
