import DesignTokens.Format.Emotion
import DesignTokens.Proofs.Tree.PrefixFree
import Mathlib.Data.List.Perm.Subperm

/-!
# Text styles under derived names

A format may give its text styles names that it derives from their own. A tree of styles
then has one entry for every device, locale and derived name, which has the value of the
last style that is given this name. It has an entry for every style, with the value of that
style, exactly if no two styles of a locale share a derived name.

## Implementation notes

All paths of such a tree have three names, so none is above another one, and the laws of
insertions that are in nobody's way apply.

-/

namespace DesignTokens

/-- The names that lead to a text style in a tree of derived names. -/
def StyleEntry.path (rename : String → String) (entry : StyleEntry) : List String :=
  [entry.device, entry.locale, rename entry.name]

namespace Model

variable {α : Type} (model : Model) (rename : String → String) (value : StyleEntry → α)

/-- The text styles with their paths and their values. -/
def namedStyles : List (List String × α) :=
  model.styles.map fun entry => (entry.path rename, value entry)

theorem paths_namedStyles :
    (model.namedStyles rename value).map Prod.fst =
      model.styles.map (StyleEntry.path rename) := by
  rw [namedStyles, List.map_map]
  rfl

theorem styleTree_eq_insertAll :
    model.styleTree rename value = Tree.insertAll .nil (model.namedStyles rename value) := by
  rw [styleTree, Tree.insertAll, namedStyles, List.foldl_map]
  rfl

theorem length_of_mem_namedStyles {leaf : List String × α}
    (mem : leaf ∈ model.namedStyles rename value) : leaf.1.length = 3 := by
  obtain ⟨entry, _, rfl⟩ := List.mem_map.mp mem
  rfl

/-- A path that leads beyond another one is longer. -/
theorem prefixFree_namedStyles : PrefixFree (model.namedStyles rename value) := by
  intro first mem second other above
  have same : first.1.length = second.1.length := by
    rw [length_of_mem_namedStyles model rename value mem,
      length_of_mem_namedStyles model rename value other]
  exact above.2 (above.1.eq_of_length same)

theorem styleTree_distinct : (model.styleTree rename value).Distinct := by
  rw [styleTree_eq_insertAll]
  exact Tree.distinct_nil.insertAll _

/-- An entry has the value of the last style that is given its names. -/
theorem leafAt?_styleTree (path : List String) :
    (model.styleTree rename value).leafAt? path =
      lastValue? path (model.namedStyles rename value) := by
  rw [styleTree_eq_insertAll]
  apply Tree.leafAt?_insertAll_of_prefixFree
  · intro leaf mem vacant
    have three := length_of_mem_namedStyles model rename value mem
    rw [vacant] at three
    cases three
  · exact prefixFree_namedStyles model rename value

theorem mem_leaves_styleTree_iff (path : List String) (kept : α) :
    (path, kept) ∈ (model.styleTree rename value).leaves ↔
      lastValue? path (model.namedStyles rename value) = some kept := by
  rw [Tree.mem_leaves_iff (styleTree_distinct model rename value), leafAt?_styleTree]

/-- The names of the entries are those that the styles are given. -/
theorem mem_paths_styleTree_iff (path : List String) :
    path ∈ (model.styleTree rename value).leaves.map Prod.fst ↔
      path ∈ model.styles.map (StyleEntry.path rename) := by
  rw [← paths_namedStyles model rename value]
  constructor
  · intro listed
    obtain ⟨leaf, mem, rfl⟩ := List.mem_map.mp listed
    have last := (mem_leaves_styleTree_iff model rename value leaf.1 leaf.2).mp mem
    exact List.mem_map_of_mem (mem_of_lastValue?_eq_some last)
  · intro given
    cases last : lastValue? path (model.namedStyles rename value) with
    | none => exact absurd given (lastValue?_eq_none_iff.mp last)
    | some kept =>
        have mem := (mem_leaves_styleTree_iff model rename value path kept).mpr last
        exact List.mem_map_of_mem (f := Prod.fst) mem

/-- There are as many entries as styles exactly if the styles are given distinct names. -/
theorem length_leaves_styleTree_iff :
    (model.styleTree rename value).leaves.length = model.styles.length ↔
      (model.styles.map (StyleEntry.path rename)).Nodup := by
  have once := Tree.nodup_leaves (styleTree_distinct model rename value)
  have same := mem_paths_styleTree_iff model rename value
  constructor
  · intro equal
    have within : ((model.styleTree rename value).leaves.map Prod.fst).Subperm
        (model.styles.map (StyleEntry.path rename)) :=
      List.Nodup.subperm once fun path listed => (same path).mp listed
    have all : ((model.styleTree rename value).leaves.map Prod.fst).Perm
        (model.styles.map (StyleEntry.path rename)) :=
      List.Subperm.perm_of_length_le within (by simp [equal])
    exact all.nodup_iff.mp once
  · intro apart
    have all := (List.perm_ext_iff_of_nodup once apart).mpr same
    simpa using all.length_eq

/-- Where the names are distinct each style has its own value. -/
theorem leafAt?_styleTree_of_mem (apart : (model.styles.map (StyleEntry.path rename)).Nodup)
    {entry : StyleEntry} (mem : entry ∈ model.styles) :
    (model.styleTree rename value).leafAt? (entry.path rename) = some (value entry) := by
  rw [← paths_namedStyles model rename value] at apart
  rw [leafAt?_styleTree, lastValue?_eq_some_iff_mem apart]
  exact List.mem_map_of_mem mem

/-- Names are distinct if those of two styles of one locale are. -/
theorem nodup_paths_iff :
    (model.styles.map (StyleEntry.path rename)).Nodup ↔
      model.styles.Pairwise fun first second =>
        first.device = second.device → first.locale = second.locale →
          rename first.name ≠ rename second.name := by
  rw [List.Nodup, List.pairwise_map]
  apply List.Pairwise.iff
  intro first second
  simp [StyleEntry.path]

end Model

namespace Emotion

/-- The tagged templates of a model. Every entry has the template of the last style that is
given its names. Each style has an entry of its own, with its own template, exactly if no
two styles of a locale have names that differ in hyphens alone. -/
theorem styleTree_keeps_styles_iff (model : Model) :
    ((styleTree model).leaves.map Prod.fst).Nodup ∧
    (∀ path css, (path, css) ∈ (styleTree model).leaves ↔
      lastValue? path (model.styles.map fun entry =>
        (entry.path Key.withoutHyphens, template entry.style)) = some css) ∧
    (((styleTree model).leaves.length = model.styles.length ∧
        ∀ entry ∈ model.styles,
          (styleTree model).leafAt? (entry.path Key.withoutHyphens) =
            some (template entry.style)) ↔
      model.styles.Pairwise fun first second =>
        first.device = second.device → first.locale = second.locale →
          Key.withoutHyphens first.name ≠ Key.withoutHyphens second.name) := by
  refine ⟨Tree.nodup_leaves (model.styleTree_distinct ..), model.mem_leaves_styleTree_iff _ _, ?_⟩
  rw [← model.nodup_paths_iff,
    ← model.length_leaves_styleTree_iff _ fun entry => template entry.style]
  refine ⟨And.left, fun counted => ⟨counted, fun entry mem => ?_⟩⟩
  have apart := (model.length_leaves_styleTree_iff ..).mp counted
  rw [← model.paths_namedStyles _ fun entry => template entry.style] at apart
  rw [styleTree, model.leafAt?_styleTree, lastValue?_eq_some_iff_mem apart]
  exact List.mem_map_of_mem mem

/-- Two styles of one locale whose names differ in a hyphen. -/
def hyphenatedStyles : Model where
  colors := .nil
  typography := [("mobile", [("kr", [
    ("title-1", ⟨"Arial", .integer 16, .integer 400, .integer 24, .integer 0⟩),
    ("title1", ⟨"Arial", .integer 32, .integer 700, .integer 40, .integer 0⟩)])])]
  gradients := none

/-- The second style takes the place of the first one. -/
theorem styleTree_hyphenatedStyles :
    hyphenatedStyles.styles.length = 2 ∧
    (styleTree hyphenatedStyles).leaves.length = 1 ∧
    ∃ first ∈ hyphenatedStyles.styles,
      (styleTree hyphenatedStyles).leafAt? (first.path Key.withoutHyphens) ≠
        some (template first.style) := by
  refine ⟨rfl, by decide +kernel, _, List.mem_cons_self, by decide +kernel⟩

end Emotion

end DesignTokens
