import DesignTokens.Format.VanillaExtract
import DesignTokens.Proofs.Format.GeneratedLines
import DesignTokens.Proofs.Format.StyleConstants
import DesignTokens.Proofs.Format.StyleNames
import DesignTokens.Proofs.Script.Declarations
import DesignTokens.Proofs.Script.Identifiers

/-!
# Names of recipes

The file of the recipes declares one constant for each text style and no other one, whatever
the model holds. Its constants are well declared exactly if their names differ and start as
identifiers do; the index then has an entry for each style, which names the recipe of this
style. The names differ wherever devices and locales are small words and no two styles of a
locale have the same part.

## Implementation notes

The declared names are read from the text of the file. The names of an export reach the file
outside declarations as well, in the index, where a name may even break its line.

-/

namespace DesignTokens.VanillaExtract

/-- The names of the recipes that a text declares. -/
def declaredRecipes (text : String) : List String :=
  Script.declared "export const " " = style(\x7b" text

section Declared

theorem declaredRecipes_append_feed (first second : String) :
    declaredRecipes (first ++ "\n" ++ second) =
      declaredRecipes first ++ declaredRecipes second :=
  Script.declared_append_feed _ _ first second

theorem declaredRecipes_line {line : String} (other : line.toList.head? ≠ some 'e')
    (feed : '\n' ∉ line.toList) : declaredRecipes line = [] :=
  Script.declared_line_eq_nil rfl other feed

theorem noLineStarts_recipeLines (style : TextStyle) :
    ∀ line ∈ recipeLines style, Text.NoLineStarts 'e' line.toList := by
  have family := Json.feed_not_mem_stringLiteral true (Css.fontStack style.family)
  have number : ∀ x : Number, '\n' ∉ x.cssText.toList := fun x => x.normalize.feed_not_mem_text
  have inside : ∀ line ∈ recipeLines style,
      line.toList.head? = some ' ' ∧ '\n' ∉ line.toList := by
    unfold recipeLines
    split <;> simp [Number.pixels, Json.asciiLiteral, family, number]
  intro line mem
  apply Text.noLineStarts_of_feed_not_mem (inside line mem).2
  rw [(inside line mem).1]
  decide

/-- A recipe declares its name. -/
theorem declaredRecipes_recipe (entry : StyleEntry) :
    declaredRecipes (recipe entry) = [recipeOf entry] := by
  have split : recipe entry =
      "export const " ++ recipeOf entry ++ " = style(\x7b" ++ "\n" ++
        Text.joinLines (recipeLines entry.style) ++ "\n" ++ "\x7d);" ++ "\n" := by
    unfold recipe
    apply String.toList_injective
    simp
  have named : '\n' ∉ "export const ".toList ++ (recipeOf entry).toList ++
      " = style(\x7b".toList := by
    have own : '\n' ∉ (recipeOf entry).toList := Script.feed_not_mem_identifier _
    simp [own]
  have lines : declaredRecipes (Text.joinLines (recipeLines entry.style)) = [] :=
    Script.declared_eq_nil rfl (Text.noLineStarts_joinLines (noLineStarts_recipeLines entry.style))
  rw [split]
  exact (Script.declared_block rfl named (by decide) (by simp) _).trans (congrArg _ lines)

theorem feed_not_mem_recipeTree (model : Model) :
    ∀ leaf ∈ (recipeTree model).leaves, '\n' ∉ leaf.2.toList := by
  intro leaf mem
  have last := (model.mem_leaves_styleTree_iff Key.withoutHyphens recipeOf leaf.1 leaf.2).mp mem
  obtain ⟨entry, _, same⟩ := List.mem_map.mp (mem_of_lastValue?_eq_some last)
  rw [← (Prod.mk.inj same).2]
  exact Script.feed_not_mem_identifier _

/-- The file declares a recipe for each style, in order, and nothing else as a recipe. -/
theorem declaredRecipes_recipesFile (model : Model) :
    declaredRecipes (recipesFile model) = model.styles.map recipeOf := by
  have split : recipesFile model =
      Text.joinLines (Banner.blockLines "Typography Recipes for Vanilla Extract" false []) ++ "\n" ++
        ("" ++ "\n" ++ ("import \x7b style \x7d from '@vanilla-extract/css';" ++ "\n" ++
          ("" ++ "\n" ++ (Text.joinLines (model.styles.map recipe) ++ "\n" ++
            ("// Typography object for convenient access" ++ "\n" ++
              ("export const typography = \x7b" ++ "\n" ++
                (Text.joinLines ((recipeTree model).render Theme.objectStyle "  " 1) ++ "\n" ++
                  ("\x7d;" ++ "\n" ++ "")))))))) := by
    unfold recipesFile
    apply String.toList_injective
    simp [Banner.fixed, Banner.block]
  have banner : declaredRecipes (Text.joinLines
      (Banner.blockLines "Typography Recipes for Vanilla Extract" false [])) = [] :=
    Script.declared_eq_nil rfl
      (Banner.noLineStarts_block (by decide) (by decide) (by simp) false (by simp))
  have vacant : declaredRecipes "" = [] := declaredRecipes_line (by simp) (by simp)
  have imports : declaredRecipes "import \x7b style \x7d from '@vanilla-extract/css';" = [] :=
    declaredRecipes_line (by simp) (by simp)
  have recipes : declaredRecipes (Text.joinLines (model.styles.map recipe)) =
      model.styles.map recipeOf := by
    rw [declaredRecipes, Script.declared_joinLines_map rfl, List.map_eq_flatMap]
    exact List.flatMap_congr fun entry _ => declaredRecipes_recipe entry
  have remark : declaredRecipes "// Typography object for convenient access" = [] :=
    declaredRecipes_line (by simp) (by simp)
  -- the object is a constant as well, but no recipe
  have object : declaredRecipes "export const typography = \x7b" = [] := by decide +kernel
  have index : declaredRecipes
      (Text.joinLines ((recipeTree model).render Theme.objectStyle "  " 1)) = [] := by
    apply Script.declared_eq_nil rfl
    apply Text.noLineStarts_joinLines
    exact Tree.noLineStarts_render (by decide) (by decide) (feed_not_mem_recipeTree model)
      (by decide)
  have closing : declaredRecipes "\x7d;" = [] := declaredRecipes_line (by simp) (by simp)
  simp only [split, declaredRecipes_append_feed, banner, vacant, imports, recipes, remark, object,
    index, closing, List.nil_append, List.append_nil]

end Declared

section Names

/-- The part of a recipe's name that comes from the name of the style. -/
def recipePart (name : String) : List Char :=
  (Text.upperFirst (Key.withoutHyphens name).toList).filter Script.isIdentifierPart

theorem toList_recipeOf (entry : StyleEntry) :
    (recipeOf entry).toList =
      entry.device.toList.filter Script.isIdentifierPart ++
        ((Text.upperFirst entry.locale.toList).filter Script.isIdentifierPart ++
          recipePart entry.name) := by
  simp only [recipeOf, recipeName, Script.identifier_append, String.toList_append,
    Script.toList_identifier, Key.capitalized, String.toList_ofList, List.append_assoc, recipePart]

variable {first second : StyleEntry}

/-- Styles that differ in hyphens alone have recipes of one name. -/
theorem recipeOf_eq_of_hyphens (device : first.device = second.device)
    (locale : first.locale = second.locale)
    (name : Key.withoutHyphens first.name = Key.withoutHyphens second.name) :
    recipeOf first = recipeOf second := by
  rw [recipeOf, recipeOf, recipeName, recipeName, device, locale, name]

/-- If names of recipes differ, the index keeps the styles apart. -/
theorem nodup_paths_of_nodup_recipeNames {model : Model}
    (apart : (model.styles.map recipeOf).Nodup) :
    (model.styles.map (StyleEntry.path Key.withoutHyphens)).Nodup := by
  rw [model.nodup_paths_iff]
  rw [List.Nodup, List.pairwise_map] at apart
  exact apart.imp fun differ device locale name =>
    differ (recipeOf_eq_of_hyphens device locale name)

theorem toList_recipeOf_of_separable (own : first.Separable recipePart) :
    (recipeOf first).toList = first.device.toList ++
      (Text.upperFirst first.locale.toList ++ recipePart first.name) := by
  have device := Script.filter_isIdentifierPart_of_isPlain
    fun c mem => Key.isPlain_of_isCompact (own.device.compact c mem)
  have locale := Script.filter_isIdentifierPart_of_isPlain own.locale.plain_upperFirst
  rw [toList_recipeOf, device, locale]

/-- Separable styles are told apart by the names of their recipes up to their own parts. -/
theorem recipeOf_eq_iff_of_separable (own : first.Separable recipePart)
    (other : second.Separable recipePart) :
    recipeOf first = recipeOf second ↔
      first.device = second.device ∧ first.locale = second.locale ∧
        recipePart first.name = recipePart second.name := by
  rw [← String.toList_inj, toList_recipeOf_of_separable own, toList_recipeOf_of_separable other]
  constructor
  · intro same
    have devices := own.device.append_inj other.device own.startsOutside_locale
      other.startsOutside_locale same
    exact ⟨devices.1, own.locale_inj other devices.2⟩
  · rintro ⟨device, locale, name⟩
    rw [device, locale, name]

end Names

/-- The recipes of a model are well declared: the file declares distinct names, which are
identifiers, and the index has an entry for each style, which names the recipe that is made
of this style. -/
structure RecipesDeclared (model : Model) : Prop where
  apart : (declaredRecipes (recipesFile model)).Nodup
  identifiers : ∀ name ∈ declaredRecipes (recipesFile model), Script.IsIdentifier name
  indexed : (recipeTree model).leaves.length = model.styles.length
  own : ∀ entry ∈ model.styles,
    (recipeTree model).leafAt? (entry.path Key.withoutHyphens) = some (recipeOf entry)

section RecipesDeclared

variable {model : Model}

theorem recipesDeclared_iff_names :
    RecipesDeclared model ↔
      (model.styles.map recipeOf).Nodup ∧ ∀ entry ∈ model.styles,
        (recipeOf entry).toList.head?.any Text.startsIdentifier = true := by
  have names := declaredRecipes_recipesFile model
  constructor
  · intro declared
    constructor
    · exact names ▸ declared.apart
    · intro entry mem
      have listed : recipeOf entry ∈ declaredRecipes (recipesFile model) := by
        rw [names]
        exact List.mem_map_of_mem mem
      exact (declared.identifiers (recipeOf entry) listed).1
  · rintro ⟨apart, starts⟩
    have paths := nodup_paths_of_nodup_recipeNames apart
    constructor
    · rwa [names]
    · rw [names, List.forall_mem_map]
      intro entry mem
      exact (Script.isIdentifier_identifier_iff _).mpr (starts entry mem)
    · exact (model.length_leaves_styleTree_iff ..).mpr paths
    · exact fun entry mem => model.leafAt?_styleTree_of_mem _ _ paths mem

/-- The name of a recipe starts with the first letter of a small word. -/
theorem startsIdentifier_recipeOf_of_separable {entry : StyleEntry}
    (own : entry.Separable recipePart) :
    (recipeOf entry).toList.head?.any Text.startsIdentifier = true := by
  obtain ⟨first, rest, spelled, lower, -⟩ := own.device
  rw [toList_recipeOf_of_separable own, spelled]
  exact Script.startsIdentifier_of_isLower lower

theorem nodup_recipeNames_iff_of_separable
    (separable : ∀ entry ∈ model.styles, entry.Separable recipePart) :
    (model.styles.map recipeOf).Nodup ↔
      model.styles.Pairwise fun first second =>
        first.device = second.device → first.locale = second.locale →
          recipePart first.name ≠ recipePart second.name := by
  rw [List.Nodup, List.pairwise_map]
  apply List.Pairwise.iff_of_mem
  intro first second mem other
  rw [ne_eq, recipeOf_eq_iff_of_separable (separable first mem) (separable second other), not_and,
    not_and]

end RecipesDeclared

/-- Each style has a recipe of its own name in the file, and no other recipe is declared. The
recipes are well declared exactly if these names differ and start as identifiers do. Where
styles are separable this is so exactly if no two styles of a locale have the same part. -/
theorem recipes_declared_iff (model : Model) :
    declaredRecipes (recipesFile model) = model.styles.map recipeOf ∧
    (RecipesDeclared model ↔
      (model.styles.map recipeOf).Nodup ∧ ∀ entry ∈ model.styles,
        (recipeOf entry).toList.head?.any Text.startsIdentifier = true) ∧
    ((∀ entry ∈ model.styles, entry.Separable recipePart) →
      (RecipesDeclared model ↔
        model.styles.Pairwise fun first second =>
          first.device = second.device → first.locale = second.locale →
            recipePart first.name ≠ recipePart second.name)) := by
  refine ⟨declaredRecipes_recipesFile model, recipesDeclared_iff_names, fun separable => ?_⟩
  rw [recipesDeclared_iff_names, nodup_recipeNames_iff_of_separable separable]
  exact and_iff_left fun entry mem => startsIdentifier_recipeOf_of_separable (separable entry mem)

theorem recipes_ordinaryStyles :
    (∀ entry ∈ ordinaryStyles.styles, entry.Separable recipePart) ∧
      RecipesDeclared ordinaryStyles := by
  have separable : ∀ entry ∈ ordinaryStyles.styles, entry.Separable recipePart := by
    decide +kernel
  refine ⟨separable, ((recipes_declared_iff ordinaryStyles).2.2 separable).mpr ?_⟩
  decide +kernel

/-- Two styles whose names run together to one name, which starts with a digit. -/
def joinedStyles : Model where
  colors := .nil
  typography := [("1440", [
    ("en", [("UsTitle", ⟨"Arial", .integer 16, .integer 400, .integer 24, .integer 0⟩)]),
    ("enUs", [("title", ⟨"Arial", .integer 32, .integer 700, .integer 40, .integer 0⟩)])])]
  gradients := none

/-- One name is declared twice, and it is no identifier. -/
theorem recipes_joinedStyles :
    declaredRecipes (recipesFile joinedStyles) = ["1440EnUsTitle", "1440EnUsTitle"] ∧
      ¬ Script.IsIdentifier "1440EnUsTitle" ∧ ¬ RecipesDeclared joinedStyles := by
  have names : declaredRecipes (recipesFile joinedStyles) =
      ["1440EnUsTitle", "1440EnUsTitle"] := by
    rw [declaredRecipes_recipesFile]
    decide +kernel
  refine ⟨names, by decide +kernel, fun declared => ?_⟩
  have apart := declared.apart
  rw [names] at apart
  exact absurd apart (by decide)

end DesignTokens.VanillaExtract
