import DesignTokens.Format.CssVariables
import DesignTokens.Format.Scss
import DesignTokens.Proofs.Format.GeneratedLines
import DesignTokens.Proofs.Format.StyleConstants
import DesignTokens.Proofs.Format.StyleSheetTokens

/-!
# Names of classes

A text style is a class of one style sheet and a mixin of another one, under one name: device,
locale and style with hyphens between them, as the export spells them. The name is one of a
style sheet exactly if its three parts have no other characters than such names may have. Styles
of one name are the same style exactly if their devices have equally many hyphens, and their
locales too, since a hyphen of a part looks like one between parts.
-/

namespace DesignTokens

namespace Css

/-- A text of characters that names in style sheets may have. -/
def IsNameText (text : String) : Prop :=
  ∀ c ∈ text.toList, isNameChar c = true

instance (text : String) : Decidable (IsNameText text) :=
  List.decidableBAll (fun c => isNameChar c = true) text.toList

theorem isNameText_append {first second : String} :
    IsNameText (first ++ second) ↔ IsNameText first ∧ IsNameText second := by
  rw [IsNameText, String.toList_append, List.forall_mem_append]
  rfl

end Css

namespace StyleEntry

/-- The name that style sheets give a text style. -/
def className (entry : StyleEntry) : String :=
  "typo-" ++ entry.device ++ "-" ++ entry.locale ++ "-" ++ entry.name

variable {first second : StyleEntry}

theorem toList_className (entry : StyleEntry) :
    entry.className.toList =
      "typo-".toList ++ (entry.device.toList ++ '-' :: (entry.locale.toList ++
        '-' :: entry.name.toList)) := by
  simp [className]

/-- Only the parts of a name can have characters that names may not have. -/
theorem isNameText_className_iff (entry : StyleEntry) :
    Css.IsNameText entry.className ↔
      Css.IsNameText entry.device ∧ Css.IsNameText entry.locale ∧ Css.IsNameText entry.name := by
  have mark : Css.IsNameText "-" := by decide
  have word : Css.IsNameText "typo-" := by decide
  rw [className, Css.isNameText_append, Css.isNameText_append, Css.isNameText_append,
    Css.isNameText_append, Css.isNameText_append, and_iff_right word, and_iff_left mark,
    and_iff_left mark, and_assoc]

/-- Styles of one name are the same style exactly if the hyphens of the name stand at the same
places in both. -/
theorem sameKey_iff_of_className_eq (same : first.className = second.className) :
    first.SameKey second ↔
      first.device.toList.count '-' = second.device.toList.count '-' ∧
        first.locale.toList.count '-' = second.locale.toList.count '-' := by
  constructor
  · rintro ⟨device, locale, -⟩
    rw [device, locale]
    exact ⟨rfl, rfl⟩
  · rintro ⟨devices, locales⟩
    rw [← String.toList_inj, toList_className, toList_className, List.append_cancel_left_eq] at same
    obtain ⟨device, rest⟩ := Key.append_mark_inj_of_count devices same
    obtain ⟨locale, name⟩ := Key.append_mark_inj_of_count locales rest
    exact ⟨String.toList_injective device, String.toList_injective locale,
      String.toList_injective name⟩

end StyleEntry

namespace CssVariables

/-- The blocks of a style sheet that are rules of classes. -/
def classRules (model : Model) : List String :=
  (styleClasses none model.styles).filter fun block => block.toList.head? == some '.'

theorem styleClass_eq (entry : StyleEntry) :
    styleClass entry = "." ++ entry.className ++ " \x7b\n" ++
      Text.joinLines (Css.declarations "  " entry.style) ++ "\n\x7d\n\n" := by
  unfold styleClass
  apply String.toList_injective
  simp [StyleEntry.className]

theorem filter_styleClasses (device : Option String) (entries : List StyleEntry) :
    (styleClasses device entries).filter (fun block => block.toList.head? == some '.') =
      entries.map styleClass := by
  induction entries generalizing device with
  | nil => rfl
  | cons entry rest ih =>
      -- a rule is told from a comment by its first character, which is no line feed
      have rule : (styleClass entry).toList.head? = some '.' := by
        simp [styleClass_eq]
      have comment : ((deviceComment entry.device).toList.head? == some '.') = false := by
        simp [deviceComment]
      have own : (styleClass entry :: styleClasses (some entry.device) rest).filter
          (fun block => block.toList.head? == some '.') =
            styleClass entry :: rest.map styleClass := by
        rw [List.filter_cons_of_pos (by simp [rule]), ih]
      rw [styleClasses, List.filter_append, own]
      split
      case isTrue => rfl
      case isFalse =>
          rw [List.filter_singleton, comment]
          rfl

end CssVariables

namespace Scss

/-- The lines of the partial of text styles that open mixins. -/
def mixinHeads (model : Model) : List String :=
  (model.styles.flatMap mixinLines).filter fun line => line.toList.head? == some '@'

theorem filter_mixinLines (entry : StyleEntry) :
    (mixinLines entry).filter (fun line => line.toList.head? == some '@') =
      ["@mixin " ++ entry.className ++ " \x7b"] := by
  have head : "@mixin typo-" ++ entry.device ++ "-" ++ entry.locale ++ "-" ++ entry.name ++
      " \x7b" = "@mixin " ++ entry.className ++ " \x7b" := by
    apply String.toList_injective
    simp [StyleEntry.className]
  have inner : (Css.declarations "  " entry.style).filter
      (fun line => line.toList.head? == some '@') = [] := by
    rw [List.filter_eq_nil_iff]
    intro line mem
    rw [Css.head?_of_mem_declarations mem]
    decide
  have front : ("@mixin " ++ entry.className ++ " \x7b").toList.head? = some '@' := by simp
  rw [mixinLines, head, List.filter_append, List.filter_append, inner, List.filter_singleton,
    front]
  rfl

end Scss

/-- The styles of a model are usable by their names: each name is one that style sheets allow,
and styles of one name have the same device, locale and name. -/
structure ClassesUsable (model : Model) : Prop where
  names : ∀ entry ∈ model.styles, Css.IsNameText entry.className
  apart : ∀ first ∈ model.styles, ∀ second ∈ model.styles, first.className = second.className →
    first.SameKey second

section ClassesUsable

variable {model : Model}

theorem classesUsable_iff :
    ClassesUsable model ↔
      (∀ entry ∈ model.styles, Css.IsNameText entry.device ∧ Css.IsNameText entry.locale ∧
        Css.IsNameText entry.name) ∧
      ∀ first ∈ model.styles, ∀ second ∈ model.styles, first.className = second.className →
        first.device.toList.count '-' = second.device.toList.count '-' ∧
          first.locale.toList.count '-' = second.locale.toList.count '-' := by
  have parts : ∀ entry ∈ model.styles, (Css.IsNameText entry.className ↔
      Css.IsNameText entry.device ∧ Css.IsNameText entry.locale ∧ Css.IsNameText entry.name) :=
    fun entry _ => entry.isNameText_className_iff
  constructor
  · rintro ⟨names, apart⟩
    constructor
    · exact fun entry mem => (parts entry mem).mp (names entry mem)
    · intro first mem second other same
      exact (StyleEntry.sameKey_iff_of_className_eq same).mp (apart first mem second other same)
  · rintro ⟨names, counted⟩
    constructor
    · exact fun entry mem => (parts entry mem).mpr (names entry mem)
    · intro first mem second other same
      exact (StyleEntry.sameKey_iff_of_className_eq same).mpr
        (counted first mem second other same)

end ClassesUsable

/-- Each style is one rule of a class and one mixin, in order, under its name. The names are
usable exactly if their parts have characters of names alone and styles of one name have their
hyphens at the same places. So only the characters matter if all devices have equally many
hyphens, and all locales too. -/
theorem classes_usable_iff (model : Model) :
    CssVariables.classRules model = model.styles.map (fun entry =>
      "." ++ entry.className ++ " \x7b\n" ++
        Text.joinLines (Css.declarations "  " entry.style) ++ "\n\x7d\n\n") ∧
    Scss.mixinHeads model = model.styles.map (fun entry =>
      "@mixin " ++ entry.className ++ " \x7b") ∧
    (ClassesUsable model ↔
      (∀ entry ∈ model.styles, Css.IsNameText entry.device ∧ Css.IsNameText entry.locale ∧
        Css.IsNameText entry.name) ∧
      ∀ first ∈ model.styles, ∀ second ∈ model.styles, first.className = second.className →
        first.device.toList.count '-' = second.device.toList.count '-' ∧
          first.locale.toList.count '-' = second.locale.toList.count '-') ∧
    ∀ inDevices inLocales, (∀ entry ∈ model.styles, entry.device.toList.count '-' = inDevices ∧
        entry.locale.toList.count '-' = inLocales) →
      (ClassesUsable model ↔
        ∀ entry ∈ model.styles, Css.IsNameText entry.device ∧ Css.IsNameText entry.locale ∧
          Css.IsNameText entry.name) := by
  refine ⟨?_, ?_, classesUsable_iff, ?_⟩
  · rw [CssVariables.classRules, CssVariables.filter_styleClasses]
    exact List.map_congr_left fun entry _ => CssVariables.styleClass_eq entry
  · rw [Scss.mixinHeads, List.filter_flatMap, List.map_eq_flatMap]
    exact List.flatMap_congr fun entry _ => Scss.filter_mixinLines entry
  · intro inDevices inLocales counted
    rw [classesUsable_iff]
    apply and_iff_left
    intro first mem second other _
    rw [(counted first mem).1, (counted first mem).2, (counted second other).1,
      (counted second other).2]
    exact ⟨rfl, rfl⟩

theorem classes_ordinaryStyles : ClassesUsable ordinaryStyles := by
  refine ((classes_usable_iff ordinaryStyles).2.2.2 0 0 ?_).mpr ?_
  · decide +kernel
  · decide +kernel

/-- Two styles of two locales that share a name, which has a slash. -/
def slashedStyles : Model where
  colors := .nil
  typography := [("mobile", [
    ("kr", [("title-1/Bold", ⟨"Arial", .integer 16, .integer 700, .integer 24, .integer 0⟩)]),
    ("kr-title", [("1/Bold", ⟨"Arial", .integer 32, .integer 700, .integer 40, .integer 0⟩)])])]
  gradients := none

/-- Both style sheets have the name twice, and it is no name of a style sheet. -/
theorem classes_slashedStyles :
    Scss.mixinHeads slashedStyles =
        ["@mixin typo-mobile-kr-title-1/Bold \x7b", "@mixin typo-mobile-kr-title-1/Bold \x7b"] ∧
      slashedStyles.styles.map StyleEntry.className =
        ["typo-mobile-kr-title-1/Bold", "typo-mobile-kr-title-1/Bold"] ∧
      ¬ Css.IsNameText "typo-mobile-kr-title-1/Bold" ∧ ¬ ClassesUsable slashedStyles := by
  refine ⟨by decide +kernel, by decide +kernel, by decide +kernel, fun usable => ?_⟩
  exact absurd usable.names (by decide +kernel)

end DesignTokens
