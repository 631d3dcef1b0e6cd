import DesignTokens.Format.CssVariables
import DesignTokens.Format.PandaCss
import DesignTokens.Format.Scss
import DesignTokens.Format.Tailwind
import DesignTokens.Format.VanillaExtract
import DesignTokens.Proofs.Entries.Collect
import DesignTokens.Proofs.Format.StyleConstants
import DesignTokens.Proofs.Key.Families

/-!
# Keys of the font families of a model

The formats list the font families of a model by their slugs, their compact keys or their kebab
forms. All families are listed, in order, exactly if different families have different compact
keys and different kebab forms. Families of one key share an entry, which has the place of the
first one and the value of the last one, and the font of a page is looked up there too.
-/

namespace DesignTokens

namespace Model

/-- The families listed so far and one more, unless it is listed already. -/
def listFamily (seen : List String) (family : String) : List String :=
  if seen.contains family then seen else seen ++ [family]

theorem nodup_listFamily {seen : List String} (nodup : seen.Nodup) (family : String) :
    (listFamily seen family).Nodup := by
  rw [listFamily]
  split
  case isTrue => exact nodup
  case isFalse absent =>
      rw [List.contains_iff_mem] at absent
      rw [List.nodup_append]
      refine ⟨nodup, List.nodup_singleton family, ?_⟩
      intro known mem other here same
      rw [List.mem_singleton] at here
      exact absent (here ▸ same ▸ mem)

theorem mem_listFamily_iff (seen : List String) (family other : String) :
    other ∈ listFamily seen family ↔ other ∈ seen ∨ other = family := by
  rw [listFamily]
  split
  case isTrue known =>
      rw [List.contains_iff_mem] at known
      constructor
      · exact Or.inl
      · rintro (mem | rfl)
        · exact mem
        · exact known
  case isFalse => rw [List.mem_append, List.mem_singleton]

/-- The listed families are those listed before and those that were given, each of them once. -/
theorem foldl_listFamily (used : List String) {seen : List String} (nodup : seen.Nodup) :
    (used.foldl listFamily seen).Nodup ∧
      ∀ family, family ∈ used.foldl listFamily seen ↔ family ∈ seen ∨ family ∈ used := by
  induction used generalizing seen with
  | nil => simp [nodup]
  | cons first rest ih =>
      obtain ⟨once, listed⟩ := ih (nodup_listFamily nodup first)
      constructor
      · exact once
      · intro family
        rw [List.foldl_cons, listed, mem_listFamily_iff, List.mem_cons, or_assoc]

/-- The families of a model are those that its styles have, each of them once. -/
theorem families_spec (model : Model) :
    model.families.Nodup ∧
      ∀ family, family ∈ model.families ↔ ∃ entry ∈ model.styles, entry.style.family = family := by
  have run : model.families =
      (model.styles.map fun entry => entry.style.family).foldl listFamily [] := rfl
  obtain ⟨once, listed⟩ := foldl_listFamily
    (model.styles.map fun entry => entry.style.family) List.nodup_nil
  rw [run]
  constructor
  · exact once
  · intro family
    rw [listed, List.mem_map, or_iff_right List.not_mem_nil]

end Model

section Keyed

variable {α : Type} (key : String → String) (value : String → α) (families : List String)

/-- Families under keys are all listed exactly if their keys are distinct. -/
theorem ofPairs_families_iff :
    Entries.ofPairs (families.map fun family => (key family, value family)) =
        families.map (fun family => (key family, value family)) ↔
      (families.map key).Nodup := by
  rw [Entries.ofPairs_eq_self_iff, List.map_map]
  rfl

/-- A key has the value of its last family. -/
theorem get?_ofPairs_families (name : String) :
    (Entries.ofPairs (families.map fun family => (key family, value family))).get? name =
      ((families.filter fun family => key family = name).getLast?).map value := by
  rw [Entries.get?_ofPairs, List.filter_map, List.getLast?_map, Option.map_map]
  rfl

end Keyed

/-- No font family of a model is lost: each format lists all of them in order, under distinct
keys, and the font of a page is the one of the first family. -/
structure FamiliesKept (model : Model) : Prop where
  tailwind : Tailwind.familyMap model = .object (model.families.map fun family =>
    (Key.familySlug family, .array [.string family, .string "sans-serif"]))
  panda : PandaCss.fontTokens model = model.families.map fun family =>
    (Key.familySlug family, PandaCss.tokenRecord (.string (family ++ ", sans-serif")))
  theme : Theme.familyValues model = model.families.map fun family =>
    (Key.familyCompact family, Css.fontStack family)
  vanillaExtract : VanillaExtract.familyStacks model = model.families.map fun family =>
    (Key.familySlug family, Css.fontStack family)
  cssVariables : CssVariables.familyVariables model = model.families.map fun family =>
    "  --font-family-" ++ Key.kebab family ++ ": " ++ Css.fontStack family ++ ";"
  scss : Scss.familyVariables model = model.families.map fun family =>
    "$font-family-" ++ Key.kebab family ++ ": " ++ Css.fontStack family ++ ";"
  slugs : (model.families.map Key.familySlug).Nodup
  compacts : (model.families.map Key.familyCompact).Nodup
  kebabs : (model.families.map Key.kebab).Nodup
  page : ∀ first ∈ model.families.head?, ∃ key,
    Theme.defaultFont model =
      "theme.fontFamily" ++ Script.accessChain [key] ++ " || 'sans-serif'" ∧
      (Theme.familyValues model).get? key = some (Css.fontStack first)

section FamiliesKept

variable {model : Model}

theorem nodup_slugs_of_nodup_compacts (compacts : (model.families.map Key.familyCompact).Nodup) :
    (model.families.map Key.familySlug).Nodup := by
  rw [List.Nodup, List.pairwise_map] at compacts ⊢
  exact compacts.imp fun differ same => differ (Key.familyCompact_eq_of_familySlug_eq same)

/-- The font of a page is looked up under the compact key of the first family. -/
theorem defaultFont_eq {first : String} (here : model.families.head? = some first) :
    Theme.defaultFont model =
      "theme.fontFamily" ++ Script.accessChain [Key.familyCompact first] ++ " || 'sans-serif'" := by
  have front : (Theme.familyValues model).names.head? = some (Key.familyCompact first) := by
    rw [Theme.familyValues, Entries.head?_names_ofPairs, List.map_map, List.head?_map, here]
    rfl
  rw [Theme.defaultFont]
  cases values : Theme.familyValues model with
  | nil =>
      rw [values] at front
      cases front
  | cons entry rest =>
      obtain ⟨key, stack⟩ := entry
      rw [values] at front
      obtain rfl : key = Key.familyCompact first := Option.some.inj front
      rfl

/-- The font found under a key is the one of its last family. -/
theorem get?_familyValues (name : String) :
    (Theme.familyValues model).get? name =
      ((model.families.filter fun family => Key.familyCompact family = name).getLast?).map
        Css.fontStack :=
  get?_ofPairs_families Key.familyCompact Css.fontStack model.families name

theorem familiesKept_iff_nodup :
    FamiliesKept model ↔
      (model.families.map Key.familyCompact).Nodup ∧ (model.families.map Key.kebab).Nodup := by
  constructor
  · intro kept
    exact ⟨kept.compacts, kept.kebabs⟩
  · rintro ⟨compacts, kebabs⟩
    -- a slug tells more than the compact key, which is its part
    have slugs := nodup_slugs_of_nodup_compacts compacts
    have theme : Theme.familyValues model = model.families.map fun family =>
        (Key.familyCompact family, Css.fontStack family) :=
      (ofPairs_families_iff ..).mpr compacts
    constructor
    case tailwind => exact congrArg Json.object ((ofPairs_families_iff ..).mpr slugs)
    case panda => exact (ofPairs_families_iff ..).mpr slugs
    case theme => exact theme
    case vanillaExtract => exact (ofPairs_families_iff ..).mpr slugs
    case cssVariables => rfl
    case scss => rfl
    case slugs => exact slugs
    case compacts => exact compacts
    case kebabs => exact kebabs
    case page =>
        intro first here
        refine ⟨Key.familyCompact first, defaultFont_eq here, ?_⟩
        obtain ⟨rest, listed⟩ := List.head?_eq_some_iff.mp here
        rw [theme, listed, List.map_cons, Entries.get?, if_pos rfl]

theorem nodup_map_families_iff (key : String → String) :
    (model.families.map key).Nodup ↔
      ∀ first ∈ model.families, ∀ second ∈ model.families, key first = key second →
        first = second := by
  rw [List.nodup_map_iff_inj_on model.families_spec.1]

/-- No family is lost exactly if different families have different compact keys and different
kebab forms. -/
theorem familiesKept_iff :
    FamiliesKept model ↔ ∀ first ∈ model.families, ∀ second ∈ model.families,
      Key.familyCompact first = Key.familyCompact second ∨ Key.kebab first = Key.kebab second →
        first = second := by
  rw [familiesKept_iff_nodup, nodup_map_families_iff, nodup_map_families_iff]
  constructor
  · rintro ⟨compacts, kebabs⟩ first mem second other (compact | kebab)
    · exact compacts first mem second other compact
    · exact kebabs first mem second other kebab
  · intro apart
    constructor
    · exact fun first mem second other compact => apart first mem second other (Or.inl compact)
    · exact fun first mem second other kebab => apart first mem second other (Or.inr kebab)

/-- For ASCII families the compact keys decide. -/
theorem familiesKept_iff_of_ascii
    (ascii : ∀ family ∈ model.families, Key.IsAscii family) :
    FamiliesKept model ↔ ∀ first ∈ model.families, ∀ second ∈ model.families,
      Key.familyCompact first = Key.familyCompact second → first = second := by
  rw [familiesKept_iff]
  refine forall₂_congr fun first mem => forall₂_congr fun second other => ?_
  rw [or_iff_left_of_imp (Key.familyCompact_eq_of_kebab_eq (ascii first mem) (ascii second other))]

end FamiliesKept

/-- The families of a model are those of its styles, each of them once. None is lost exactly if
different families have different compact keys and different kebab forms, of which the compact
keys decide for ASCII families. The font of a page is always looked up under the compact key of
the first family, where the last family of this key is found. -/
theorem families_kept_iff (model : Model) :
    (model.families.Nodup ∧
      ∀ family, family ∈ model.families ↔ ∃ entry ∈ model.styles, entry.style.family = family) ∧
    (FamiliesKept model ↔ ∀ first ∈ model.families, ∀ second ∈ model.families,
      Key.familyCompact first = Key.familyCompact second ∨ Key.kebab first = Key.kebab second →
        first = second) ∧
    ((∀ family ∈ model.families, Key.IsAscii family) →
      (FamiliesKept model ↔ ∀ first ∈ model.families, ∀ second ∈ model.families,
        Key.familyCompact first = Key.familyCompact second → first = second)) ∧
    ∀ first ∈ model.families.head?,
      Theme.defaultFont model =
        "theme.fontFamily" ++ Script.accessChain [Key.familyCompact first] ++
          " || 'sans-serif'" ∧
      (Theme.familyValues model).get? (Key.familyCompact first) =
        ((model.families.filter fun family =>
          Key.familyCompact family = Key.familyCompact first).getLast?).map Css.fontStack :=
  ⟨model.families_spec, familiesKept_iff, familiesKept_iff_of_ascii,
    fun first here => ⟨defaultFont_eq here, get?_familyValues (Key.familyCompact first)⟩⟩

theorem families_ordinaryStyles : FamiliesKept ordinaryStyles := by
  refine ((families_kept_iff ordinaryStyles).2.2.1 ?_).mpr ?_
  · decide +kernel
  · decide +kernel

/-- Two styles whose font families have no ASCII letters and digits. -/
def hangulFamilies : Model where
  colors := .nil
  typography := [("mobile", [("kr", [
    ("title", ⟨"돋움", .integer 24, .integer 700, .integer 32, .integer 0⟩),
    ("body", ⟨"굴림", .integer 16, .integer 400, .integer 24, .integer 0⟩)])])]
  gradients := none

/-- One entry is left of two families, and the font of a page is the second one. -/
theorem families_hangulFamilies :
    hangulFamilies.families = ["돋움", "굴림"] ∧
      Theme.familyValues hangulFamilies = [("", "'굴림', sans-serif")] ∧
      ¬ FamiliesKept hangulFamilies := by
  have families : hangulFamilies.families = ["돋움", "굴림"] := by decide +kernel
  refine ⟨families, by decide +kernel, fun kept => ?_⟩
  have compacts := kept.compacts
  rw [families] at compacts
  exact absurd compacts (by decide +kernel)

end DesignTokens
