import DesignTokens.Proofs.Model.Validated
import Mathlib.Data.List.Forall2

/-!
# Building a model keeps its styles

Devices and locales without styles are dropped when a model is built, and nothing else is: the
styles of the model are those of its parts, one by one and in their order. So every device of a
validated model has a locale, and every locale has a style.
-/

namespace DesignTokens

open Shape (Given)

namespace Shape

variable {α β : Type}

/-- An accepted mapping has the names of the given one, and each of its values was accepted. -/
theorem forall₂_of_values_eq_ok {check : β → Checked α} {members : Entries β}
    {result : Entries α} (h : values check members = .ok result) :
    List.Forall₂ (fun member entry => entry.1 = member.1 ∧ check member.2 = .ok entry.2)
      members result := by
  induction members generalizing result with
  | nil =>
      cases h
      exact .nil
  | cons member rest ih =>
      obtain ⟨name, value⟩ := member
      rw [values] at h
      obtain ⟨_, others, first, later, rfl⟩ := exists_of_both_eq_ok h
      obtain ⟨own, accepted, rfl⟩ := exists_of_map_eq_ok first
      exact .cons ⟨rfl, eq_ok_of_below_eq_ok accepted⟩ (ih later)

theorem Given.exists_members_of_mappingOf {check : Given α → Checked β} {given : Given α}
    {result : Entries β} (h : mappingOf check given = .ok result) :
    ∃ members, given.members? = some members ∧ values check members = .ok result := by
  unfold mappingOf at h
  split at h
  case h_1 members split => exact ⟨members, split, h⟩
  case h_2 => cases h

end Shape

namespace Model

/-- A style among the parts of a model, with its device, its locale and its name. -/
structure StylePart where
  device : String
  locale : String
  name : String
  given : Given TextStyle

/-- An entry has the names of a part and the style that the part gives. -/
structure StylePart.Gives (part : StylePart) (entry : StyleEntry) : Prop where
  device : entry.device = part.device
  locale : entry.locale = part.locale
  name : entry.name = part.name
  style : Given.recordOf TextStyle.check part.given = .ok entry.style

/-- The styles of a locale. -/
def partsOfLocale (device locale : String) (styles : Given TextStyle) : List StylePart :=
  (styles.members?.getD []).map fun member => ⟨device, locale, member.1, member.2⟩

/-- The styles of a device. -/
def partsOfDevice (device : String) (locales : Given TextStyle) : List StylePart :=
  (locales.members?.getD []).flatMap fun member => partsOfLocale device member.1 member.2

/-- The styles among the parts of a model, in their order. -/
def styleParts (given : Given TextStyle) : List StylePart :=
  (given.members?.getD []).flatMap fun member => partsOfDevice member.1 member.2

section Dropping

theorem partsOfLocale_of_isEmptyLocale {device locale : String} {styles : Given TextStyle}
    (empty : isEmptyLocale styles = true) : partsOfLocale device locale styles = [] := by
  unfold isEmptyLocale at empty
  split at empty
  case h_1 nothing => rw [partsOfLocale, nothing, Option.getD_some, List.map_nil]
  case h_2 => cases empty

theorem flatMap_partsOfLocale_filter (device : String) (locales : Entries (Given TextStyle)) :
    (locales.filter fun entry => !isEmptyLocale entry.2).flatMap
        (fun member => partsOfLocale device member.1 member.2) =
      locales.flatMap fun member => partsOfLocale device member.1 member.2 := by
  induction locales with
  | nil => rfl
  | cons locale rest ih =>
      rw [List.filter_cons, List.flatMap_cons]
      cases empty : isEmptyLocale locale.2 with
      | true =>
          rw [partsOfLocale_of_isEmptyLocale empty]
          exact ih
      | false => exact congrArg (partsOfLocale device locale.1 locale.2 ++ ·) ih

/-- A device that is dropped has no style, and a device that is kept has all of its styles. -/
theorem partsOfDevice_occupiedDevice? (device : String × Given TextStyle) :
    ((occupiedDevice? device).toList.flatMap fun kept => partsOfDevice kept.1 kept.2) =
      partsOfDevice device.1 device.2 := by
  unfold occupiedDevice?
  split
  case h_1 locales inside =>
      have kept := flatMap_partsOfLocale_filter device.1 locales
      have own : partsOfDevice device.1 device.2 =
          locales.flatMap fun member => partsOfLocale device.1 member.1 member.2 := by
        rw [partsOfDevice, inside, Option.getD_some]
      rw [own, ← kept]
      split
      case h_1 nothing =>
          rw [nothing]
          rfl
      case h_2 => exact List.flatMap_singleton _ _
  case h_2 => exact List.flatMap_singleton _ _

theorem flatMap_partsOfDevice_filterMap (devices : Entries (Given TextStyle)) :
    (devices.filterMap occupiedDevice?).flatMap (fun kept => partsOfDevice kept.1 kept.2) =
      devices.flatMap fun device => partsOfDevice device.1 device.2 := by
  induction devices with
  | nil => rfl
  | cons device rest ih =>
      rw [List.flatMap_cons, ← partsOfDevice_occupiedDevice? device, ← ih, List.filterMap_cons]
      cases occupiedDevice? device with
      | none => rfl
      | some kept => simp

end Dropping

section Accepting

theorem forall₂_partsOfLocale (device locale : String) {given : Given TextStyle}
    {styles : Entries TextStyle}
    (accepted : Given.mappingOf (Given.recordOf TextStyle.check) given = .ok styles) :
    List.Forall₂ StylePart.Gives (partsOfLocale device locale given)
      (styles.map fun style => ⟨device, locale, style.1, style.2⟩) := by
  obtain ⟨members, split, each⟩ := Given.exists_members_of_mappingOf accepted
  rw [partsOfLocale, split, Option.getD_some, List.forall₂_map_left_iff,
    List.forall₂_map_right_iff]
  exact (Shape.forall₂_of_values_eq_ok each).imp fun _ _ own => ⟨rfl, rfl, own.1, own.2⟩

theorem forall₂_partsOfDevice (device : String) {given : Given TextStyle}
    {locales : Entries (Entries TextStyle)}
    (accepted : Given.mappingOf (Given.mappingOf (Given.recordOf TextStyle.check)) given =
      .ok locales) :
    List.Forall₂ StylePart.Gives (partsOfDevice device given)
      (locales.flatMap fun locale =>
        locale.2.map fun style => ⟨device, locale.1, style.1, style.2⟩) := by
  obtain ⟨members, split, each⟩ := Given.exists_members_of_mappingOf accepted
  rw [partsOfDevice, split, Option.getD_some]
  refine List.rel_flatMap (Shape.forall₂_of_values_eq_ok each) fun member locale own => ?_
  rw [own.1]
  exact forall₂_partsOfLocale device member.1 own.2

theorem styles_eq (model : Model) :
    model.styles = model.typography.flatMap fun device => device.2.flatMap fun locale =>
      locale.2.map fun style => ⟨device.1, locale.1, style.1, style.2⟩ := rfl

/-- The styles of a model that is built are those of its parts, one by one. -/
theorem forall₂_styleParts {colors : Json} {typography : Given TextStyle}
    {gradients : Given Gradient} {model : Model}
    (built : build colors typography gradients = .ok model) :
    List.Forall₂ StylePart.Gives (styleParts typography) model.styles := by
  obtain ⟨-, styled, -⟩ := of_build_eq_ok built
  obtain ⟨members, split, each⟩ := exists_values_of_buildTypography styled
  rw [styleParts, split, Option.getD_some, ← flatMap_partsOfDevice_filterMap, styles_eq]
  refine List.rel_flatMap (Shape.forall₂_of_values_eq_ok each) fun member device own => ?_
  rw [own.1]
  exact forall₂_partsOfDevice member.1 own.2

end Accepting

/-- Every device has a locale, and every locale has a style. -/
def Occupied (model : Model) : Prop :=
  ∀ device ∈ model.typography, device.2 ≠ [] ∧ ∀ locale ∈ device.2, locale.2 ≠ []

theorem ne_nil_of_isEmptyLocale_eq_false {given : Given TextStyle} {styles : Entries TextStyle}
    (occupied : isEmptyLocale given = false)
    (accepted : Given.mappingOf (Given.recordOf TextStyle.check) given = .ok styles) :
    styles ≠ [] := by
  obtain ⟨members, split, each⟩ := Given.exists_members_of_mappingOf accepted
  apply Shape.ne_nil_of_values_eq_ok each
  rintro rfl
  rw [isEmptyLocale, split] at occupied
  cases occupied

/-- A model that is built has no empty device and no empty locale. -/
theorem occupied_of_build {colors : Json} {typography : Given TextStyle}
    {gradients : Given Gradient} {model : Model}
    (built : build colors typography gradients = .ok model) : model.Occupied := by
  obtain ⟨-, styled, -⟩ := of_build_eq_ok built
  obtain ⟨members, -, each⟩ := exists_values_of_buildTypography styled
  intro device mem
  obtain ⟨kept, here, accepted⟩ := (Shape.of_values_eq_ok each).2 device mem
  obtain ⟨given, -, found⟩ := List.mem_filterMap.mp here
  obtain ⟨inner, inside, values⟩ := Given.exists_members_of_mappingOf accepted
  obtain ⟨-, ⟨locales, -, some_locale, same⟩ | ⟨outside, same⟩⟩ :=
    of_occupiedDevice?_eq_some found
  · rw [same] at inside
    cases inside
    constructor
    · exact Shape.ne_nil_of_values_eq_ok values some_locale
    · intro locale listed
      obtain ⟨part, there, own⟩ := (Shape.of_values_eq_ok values).2 locale listed
      have occupied := (List.mem_filter.mp there).2
      exact ne_nil_of_isEmptyLocale_eq_false (by simpa using occupied) own
  · rw [same, outside] at inside
    cases inside

theorem Validated.occupied {model : Model} (valid : model.Validated) : model.Occupied := by
  obtain ⟨_, _, _, -, -, built⟩ := valid.exists_build
  exact occupied_of_build built

end Model

end DesignTokens
