import DesignTokens.Export.Read
import DesignTokens.Format.CssVariables
import DesignTokens.Format.PandaCss
import DesignTokens.Format.Scss
import DesignTokens.Format.VanillaExtract
import DesignTokens.Proofs.Entries.Collect
import DesignTokens.Proofs.Export.ColorLeaves

/-!
# The colors of all formats

Every format lists the colors of a model under names of its own, made of the paths of the
colors. The paths of an exported color are made of plain segments, so no way of joining
them merges two colors or changes their order.
-/

namespace DesignTokens.Export

/-- The leaves of the color section of an export. -/
def colorLeaves (sections : Entries Json) : List (List String × String) :=
  (colors "" ((section? "color" sections).getD [])).leaves

variable (sections : Entries Json)

theorem leaves_colors_model :
    (model sections).colors.leaves =
      (colorLeaves sections).map fun entry => (entry.1, .string entry.2) := by
  rw [model, Tree.leaves_map, colorLeaves]

theorem plain_of_mem_colorLeaves {entry : List String × String}
    (mem : entry ∈ colorLeaves sections) : ∀ segment ∈ entry.1, Key.Plain segment :=
  plain_of_mem_colors mem

theorem nodup_colorLeaves : ((colorLeaves sections).map Prod.fst).Nodup :=
  Tree.nodup_leaves (colors_distinct ..)

/-- The names of colors joined with a mark are pairwise distinct. -/
theorem nodup_joined_colorLeaves (mark : Char) (separates : Key.isPlain mark = false) :
    ((colorLeaves sections).map fun entry =>
      (String.singleton mark).intercalate entry.1).Nodup := by
  have joined := Key.nodup_map_intercalate mark separates (nodup_colorLeaves sections) (by
    intro path mem
    obtain ⟨entry, listed, rfl⟩ := List.mem_map.mp mem
    exact plain_of_mem_colorLeaves sections listed)
  rwa [List.map_map] at joined

/-- The variables of a style sheet are named by the joined paths, which are in kebab form
already. -/
theorem kebab_of_mem_colorLeaves {entry : List String × String}
    (mem : entry ∈ colorLeaves sections) :
    Key.kebab ("-".intercalate entry.1) = "-".intercalate entry.1 :=
  Key.kebab_intercalate (plain_of_mem_colorLeaves sections mem)

theorem cssColorVariables_model :
    CssVariables.colorVariables (model sections) =
      (colorLeaves sections).map fun entry =>
        "  --color-" ++ "-".intercalate entry.1 ++ ": " ++ entry.2 ++ ";" := by
  rw [CssVariables.colorVariables, leaves_colors_model, List.map_map]
  apply List.map_congr_left
  intro entry mem
  simp [kebab_of_mem_colorLeaves sections mem]

theorem scssColorVariables_model :
    Scss.colorVariables (model sections) =
      (colorLeaves sections).map fun entry =>
        "$color-" ++ "-".intercalate entry.1 ++ ": " ++ entry.2 ++ ";" := by
  rw [Scss.colorVariables, leaves_colors_model, List.map_map]
  apply List.map_congr_left
  intro entry mem
  simp [kebab_of_mem_colorLeaves sections mem]

/-- No color of the flat map replaces another one. -/
theorem flatColors_model :
    VanillaExtract.flatColors (model sections) =
      (colorLeaves sections).map fun entry => (".".intercalate entry.1, .string entry.2) := by
  rw [VanillaExtract.flatColors, leaves_colors_model, List.map_map]
  apply Entries.ofPairs_of_nodup
  have joined := nodup_joined_colorLeaves sections '.' (by decide)
  rw [List.map_map]
  exact joined

theorem leaves_colorTokens_model :
    (PandaCss.colorTokens (model sections)).leaves =
      (colorLeaves sections).map fun entry => (entry.1 ++ ["value"], .string entry.2) := by
  rw [PandaCss.colorTokens, Tree.leaves_wrap, leaves_colors_model, List.map_map]
  rfl

/-- All formats carry the colors of the model in the order of its tree: the custom
properties and the Sass variables one line for each, the flat map one entry for each, and
the token records one leaf for each. The names that they make of the paths are pairwise
distinct. -/
theorem formats_carry_same_colors :
    ∃ leaves : List (List String × String),
      (model sections).colors.leaves =
        leaves.map (fun entry => (entry.1, Json.string entry.2)) ∧
      CssVariables.colorVariables (model sections) = leaves.map (fun entry =>
        "  --color-" ++ "-".intercalate entry.1 ++ ": " ++ entry.2 ++ ";") ∧
      Scss.colorVariables (model sections) = leaves.map (fun entry =>
        "$color-" ++ "-".intercalate entry.1 ++ ": " ++ entry.2 ++ ";") ∧
      VanillaExtract.flatColors (model sections) =
        leaves.map (fun entry => (".".intercalate entry.1, Json.string entry.2)) ∧
      (PandaCss.colorTokens (model sections)).leaves =
        leaves.map (fun entry => (entry.1 ++ ["value"], Json.string entry.2)) ∧
      (leaves.map fun entry => "-".intercalate entry.1).Nodup ∧
      (leaves.map fun entry => ".".intercalate entry.1).Nodup := by
  refine ⟨colorLeaves sections, leaves_colors_model sections, cssColorVariables_model sections,
    scssColorVariables_model sections, flatColors_model sections,
    leaves_colorTokens_model sections, ?_, ?_⟩
  · exact nodup_joined_colorLeaves sections '-' (by decide)
  · exact nodup_joined_colorLeaves sections '.' (by decide)

end DesignTokens.Export
