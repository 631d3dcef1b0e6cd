import DesignTokens.Export.Read
import DesignTokens.Model.Check
import DesignTokens.Proofs.Export.ColorOrder
import DesignTokens.Proofs.Export.FoundStyles
import DesignTokens.Proofs.Json.Documents
import DesignTokens.Proofs.Tree.Members

/-!
# Well-formed models

The model of an export and a model that is given as a record are well-formed if the export or
the record is a document: their colors are a document, their names are distinct, no device and
no locale is empty, and the numbers of their styles are stored and within the limit of digits.
-/

namespace DesignTokens

namespace Shape

theorem limited_of_number_eq_ok {value : Json} {x : Number} (limited : value.NumberLimited)
    (h : number value = .ok x) : x.Limited := by
  unfold number at h
  split at h
  case h_1 y =>
      cases h
      exact Number.Limited.normalize limited
  case h_2 b =>
      cases h
      cases b <;> exact Number.limited_digit (by decide)
  case h_3 s =>
      split at h
      case h_1 y given =>
          cases h
          exact (Number.limited_of_ofText? given).normalize
      case h_2 => cases h
  case h_4 => cases h

end Shape

namespace TextStyle

/-- A style that can be stored in a document. -/
structure Sound (style : TextStyle) : Prop where
  stored : style.Stored
  limited : ∀ x ∈ style.numbers, x.Limited

/-- A style that is read from a document is sound. -/
theorem sound_of_check {record : Entries Json} {style : TextStyle}
    (h : check record = .ok style) (document : (Json.object record).IsDocument) : style.Sound := by
  refine ⟨stored_of_check h, fun x mem => ?_⟩
  rcases eq_zero_or_exists_mem_of_check h x mem with rfl | ⟨member, here, accepted⟩
  · exact Number.limited_digit (by decide)
  · exact Shape.limited_of_number_eq_ok (document.member member here).self.2 accepted

theorem isDocument_toMembers {style : TextStyle} (limited : ∀ x ∈ style.numbers, x.Limited) :
    (Json.object style.toMembers).IsDocument := by
  simp only [numbers, List.forall_mem_cons] at limited
  obtain ⟨size, weight, lineHeight, letterSpacing, -⟩ := limited
  unfold toMembers
  split <;>
    simp [Json.IsDocument, Json.NamesDistinct, Json.NumberLimited, size, weight, lineHeight,
      letterSpacing]

end TextStyle

namespace Tree

/-- A tree of texts with distinct names is a document. -/
theorem isDocument_toJson_map_string {tree : Tree String} (distinct : tree.Distinct) :
    (tree.map .string).toJson.IsDocument := by
  induction tree with
  | nil => exact Json.isDocument_empty
  | leaf name value rest ih =>
      exact .cons (map_fst_toMembers_map .string rest ▸ distinct.1)
        (.string _ ⟨trivial, trivial⟩) (ih distinct.2)
  | node name children rest ihc ih =>
      exact .cons (map_fst_toMembers_map .string rest ▸ distinct.1) (ihc distinct.2.1)
        (ih distinct.2.2)

end Tree

namespace Model

/-- Devices, locales and styles of distinct names, in which nothing is empty and every style is
sound. -/
def SoundTypography (devices : Entries (Entries (Entries TextStyle))) : Prop :=
  devices.Collected fun _ (locales : Entries (Entries TextStyle)) =>
    locales ≠ [] ∧ locales.Collected fun _ (styles : Entries TextStyle) =>
      styles ≠ [] ∧ styles.Collected fun _ style => style.Sound

/-- A model whose colors are a document and whose typography is sound. -/
structure WellFormed (model : Model) : Prop where
  colors : model.colors.toJson.IsDocument
  readable : Tree.ofMembers model.colors.toMembers = model.colors
  typography : SoundTypography model.typography

end Model

namespace Export

theorem sound_of_ofJson_style {value : Json} {style : TextStyle} (document : value.IsDocument)
    (h : Node.ofJson value = .style style) : style.Sound := by
  obtain ⟨members, record, rfl, mem, accepted⟩ := exists_check_of_ofJson_style h
  exact TextStyle.sound_of_check accepted (document.member _ mem)

theorem soundTypography_typography {nodes : List (String × Json)}
    (document : (Json.object nodes).IsDocument) : Model.SoundTypography (typography nodes) := by
  constructor
  · refine (Entries.names_filterMap_sublist ?_ nodes).nodup document.self.1
    rintro ⟨device, value⟩ other found
    cases value with
    | object members =>
        simp only at found
        split at found <;> cases found
        rfl
    | _ => cases found
  · intro entry mem
    exact collected_of_mem_typography (fun node here =>
      (document.member node here).deep.mono fun part own style => sound_of_ofJson_style own) mem

theorem isDocument_section? {sections : Entries Json} (document : (Json.object sections).IsDocument)
    (name : String) : (Json.object ((section? name sections).getD [])).IsDocument := by
  cases found : section? name sections with
  | none => exact Json.isDocument_empty
  | some nodes =>
      obtain ⟨value, given, members⟩ := Option.bind_eq_some_iff.mp found
      have own := document.member _ (Entries.mem_of_get?_eq_some given)
      cases value with
      | object inner =>
          cases members
          exact own
      | _ => cases members

end Export

namespace Model

theorem soundStyles_of_mapping {value : Json} {styles : Entries TextStyle}
    (document : value.IsDocument) (some_style : isEmptyObject value = false)
    (h : Shape.mapping (Shape.record TextStyle.check) value = .ok styles) :
    styles ≠ [] ∧ styles.Collected fun _ style => style.Sound := by
  cases value with
  | object members =>
      have nonempty : members ≠ [] := by
        rintro rfl
        cases some_style
      refine ⟨Shape.ne_nil_of_values_eq_ok h nonempty,
        Shape.collected_of_values_eq_ok h document.self.1 ?_⟩
      rintro ⟨name, value⟩ mem style accepted
      cases value with
      | object record => exact TextStyle.sound_of_check accepted (document.member _ mem)
      | _ => cases accepted
  | _ => cases h

theorem soundLocales_of_values {members : List (String × Json)}
    {locales : Entries (Entries TextStyle)} (document : (Json.object members).IsDocument)
    (some_locale : withoutEmptyLocales members ≠ [])
    (h : Shape.values (Shape.mapping (Shape.record TextStyle.check))
      (withoutEmptyLocales members) = .ok locales) :
    locales ≠ [] ∧ locales.Collected fun _ (styles : Entries TextStyle) =>
      styles ≠ [] ∧ styles.Collected fun _ style => style.Sound := by
  refine ⟨Shape.ne_nil_of_values_eq_ok h some_locale, Shape.collected_of_values_eq_ok h ?_ ?_⟩
  · exact (List.filter_sublist.map Prod.fst).nodup document.self.1
  · intro locale mem styles accepted
    obtain ⟨here, occupied⟩ := List.mem_filter.mp mem
    exact soundStyles_of_mapping (document.member _ here) (by simpa using occupied) accepted

/-- A device whose value is an object keeps the locales that are not empty. -/
theorem of_mem_withoutEmptyDevices {devices : List (String × Json)} {device : String × Json}
    (mem : device ∈ withoutEmptyDevices devices) :
    (∃ members, (device.1, .object members) ∈ devices ∧ withoutEmptyLocales members ≠ [] ∧
      device.2 = .object (withoutEmptyLocales members)) ∨
    ∀ members, device.2 ≠ .object members := by
  obtain ⟨⟨name, value⟩, here, found⟩ := List.mem_filterMap.mp mem
  cases value with
  | object members =>
      simp only at found
      split at found
      case h_1 => cases found
      case h_2 occupied =>
          cases found
          exact Or.inl ⟨members, here, occupied, rfl⟩
  | _ =>
      cases found
      exact Or.inr fun _ same => by cases same

theorem names_withoutEmptyDevices_sublist (devices : Entries Json) :
    (withoutEmptyDevices devices).names.Sublist devices.names := by
  refine Entries.names_filterMap_sublist ?_ devices
  rintro ⟨device, value⟩ other found
  cases value with
  | object members =>
      simp only at found
      split at found <;> cases found
      rfl
  | _ =>
      cases found
      rfl

theorem soundTypography_of_checkTypography {value : Json}
    {devices : Entries (Entries (Entries TextStyle))} (document : value.IsDocument)
    (h : checkTypography value = .ok devices) : SoundTypography devices := by
  cases value with
  | object members =>
      have given : Shape.values
          (Shape.mapping (Shape.mapping (Shape.record TextStyle.check)))
          (withoutEmptyDevices members) = .ok devices := h
      refine Shape.collected_of_values_eq_ok given
        ((names_withoutEmptyDevices_sublist members).nodup document.self.1) ?_
      intro device mem locales accepted
      rcases of_mem_withoutEmptyDevices mem with ⟨inner, here, occupied, same⟩ | other
      · rw [same] at accepted
        exact soundLocales_of_values (document.member _ here) occupied accepted
      · obtain ⟨name, value⟩ := device
        cases value with
        | object inner => exact absurd rfl (other inner)
        | _ => cases accepted
  | _ => cases h

theorem soundColors_of_checkColors {value : Json} {tree : Tree Json} (document : value.IsDocument)
    (h : checkColors value = .ok tree) :
    tree.toJson.IsDocument ∧ Tree.ofMembers tree.toMembers = tree := by
  cases value with
  | object members =>
      obtain rfl := Except.ok.inj h
      rw [Tree.toJson, Tree.toMembers_ofMembers]
      exact ⟨document, rfl⟩
  | _ => cases h

/-- A model that is given as a document is well-formed. -/
theorem wellFormed_of_check {value : Json} {model : Model} (document : value.IsDocument)
    (h : check value = .ok model) : model.WellFormed := by
  cases value with
  | object fields =>
      obtain ⟨_, gradients, one, _, rfl⟩ := Shape.exists_of_both_eq_ok h
      obtain ⟨_, typography, two, styled, rfl⟩ := Shape.exists_of_both_eq_ok one
      obtain ⟨colors, colored, rfl⟩ := Shape.exists_of_map_eq_ok two
      have sound : colors.toJson.IsDocument ∧ Tree.ofMembers colors.toMembers = colors := by
        rcases Shape.eq_default_or_exists_mem_of_optionalField_eq_ok colored with
          rfl | ⟨member, mem, accepted⟩
        · exact ⟨Json.isDocument_empty, rfl⟩
        · exact soundColors_of_checkColors (document.member member mem) accepted
      refine ⟨sound.1, sound.2, ?_⟩
      rcases Shape.eq_default_or_exists_mem_of_optionalField_eq_ok styled with
        rfl | ⟨member, mem, accepted⟩
      · exact Entries.collected_nil
      · exact soundTypography_of_checkTypography (document.member member mem) accepted
  | _ => cases h

end Model

namespace Export

/-- The model of an export that is a document is well-formed. -/
theorem wellFormed_model {sections : Entries Json} (document : (Json.object sections).IsDocument) :
    (model sections).WellFormed where
  colors := Tree.isDocument_toJson_map_string (colors_distinct _ _)
  readable := Tree.ofMembers_toMembers_map_string _
  typography := soundTypography_typography (isDocument_section? document "font")

end Export

end DesignTokens
