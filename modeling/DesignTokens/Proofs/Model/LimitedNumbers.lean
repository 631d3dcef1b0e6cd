import DesignTokens.Proofs.Export.GradientOrder
import DesignTokens.Proofs.Model.Literals
import DesignTokens.Proofs.Model.StoredNumbers

/-!
# Models within the limit of digits

Formats write every number of a model, and a whole number of too many digits cannot be written. No
text holds such a number, so a model that comes from a text has none.
-/

namespace DesignTokens

theorem GradientStop.limited_of_check {record : Entries Json} {stop : GradientStop}
    (h : check record = .ok stop) (limited : (Json.object record).Throughout Json.NumberLimited) :
    stop.position.Limited := by
  obtain ⟨_, color, one, _, rfl⟩ := Shape.exists_of_both_eq_ok h
  obtain ⟨position, placed, rfl⟩ := Shape.exists_of_map_eq_ok one
  obtain ⟨member, mem, placed⟩ := Shape.exists_mem_of_field_eq_ok placed
  exact Shape.limited_of_number_eq_ok (limited.member member mem).self placed

namespace Gradient

theorem limited_of_items {other : Shape.Problem} {value : Json} {stops : List GradientStop}
    (h : Shape.items other (Shape.record GradientStop.check) value = .ok stops)
    (limited : value.Throughout Json.NumberLimited) : ∀ stop ∈ stops, stop.position.Limited := by
  intro stop mem
  cases value with
  | array list =>
      obtain ⟨item, here, accepted⟩ := Shape.exists_mem_of_mem_itemsFrom h stop mem
      cases item with
      | object record => exact GradientStop.limited_of_check accepted (limited.item _ here)
      | _ => cases accepted
  | _ => cases h

variable {record : Entries Json} {gradient : Gradient}

theorem forall_numbers {holds : Number → Prop} :
    (∀ x ∈ gradient.numbers, holds x) ↔
      holds gradient.rotation ∧ ∀ stop ∈ gradient.stops, holds stop.position := by
  rw [numbers, List.forall_mem_cons, List.forall_mem_map]

/-- The numbers of a payload keep to the limit when a gradient is made of it. -/
theorem limited_of_checkPayload (h : checkPayload record = .ok gradient)
    (limited : (Json.object record).Throughout Json.NumberLimited) :
    ∀ x ∈ gradient.numbers, x.Limited := by
  obtain ⟨_, stops, two, listed, rfl⟩ := Shape.exists_of_both_eq_ok h
  obtain ⟨_, rotation, one, turned, rfl⟩ := Shape.exists_of_both_eq_ok two
  obtain ⟨kind, _, rfl⟩ := Shape.exists_of_map_eq_ok one
  obtain ⟨angle, here, turned⟩ := Shape.exists_mem_of_field_eq_ok turned
  obtain ⟨list, there, listed⟩ := Shape.exists_mem_of_field_eq_ok listed
  exact forall_numbers.mpr
    ⟨Shape.limited_of_number_eq_ok (limited.member angle here).self turned,
      limited_of_items listed (limited.member list there)⟩

theorem limited_of_check (h : check record = .ok gradient)
    (limited : (Json.object record).Throughout Json.NumberLimited) :
    ∀ x ∈ gradient.numbers, x.Limited := by
  obtain ⟨_, stops, two, listed, rfl⟩ := Shape.exists_of_both_eq_ok h
  obtain ⟨_, rotation, one, turned, rfl⟩ := Shape.exists_of_both_eq_ok two
  obtain ⟨kind, _, rfl⟩ := Shape.exists_of_map_eq_ok one
  obtain ⟨angle, here, turned⟩ := Shape.exists_mem_of_field_eq_ok turned
  refine forall_numbers.mpr
    ⟨Shape.limited_of_number_eq_ok (limited.member angle here).self turned, ?_⟩
  rcases Shape.eq_default_or_exists_mem_of_optionalField_eq_ok listed with
    rfl | ⟨list, there, listed⟩
  · exact List.forall_mem_nil _
  · exact limited_of_items listed (limited.member list there)

end Gradient

namespace Export

/-- What is reached through groups is a part of the nodes. -/
theorem Reached.throughout {own : Json → Prop} {nodes : List (String × Json)}
    {address : List String} {node : Json} (reached : Reached nodes address node)
    (each : ∀ member ∈ nodes, member.2.Throughout own) : node.Throughout own := by
  induction reached with
  | here mem => exact each _ mem
  | within mem group _ ih =>
      have own := each _ mem
      rw [eq_object_of_ofJson_eq_group group] at own
      exact ih own.member

theorem limited_of_ofJson_gradient {node : Json} {gradient : Gradient}
    (h : Node.ofJson node = .gradient gradient) (limited : node.Throughout Json.NumberLimited) :
    ∀ x ∈ gradient.numbers, x.Limited := by
  cases node with
  | object members =>
      have leaf : Node.ofMembers members = .gradient gradient := h
      unfold Node.ofMembers at leaf
      split at leaf
      case h_1 tag payload tagged =>
          obtain ⟨record, rfl, accepted⟩ := exists_check_of_ofLeaf_gradient leaf
          exact Gradient.limited_of_checkPayload accepted
            (limited.member _ (mem_of_tagged?_eq_some tagged))
      case h_2 => cases leaf
  | _ => cases h

/-- A gradient of a section was reached through groups. -/
theorem exists_reached_of_mem_gradients {nodes : List (String × Json)}
    {category : String × Entries Gradient} (first : category ∈ gradients nodes)
    {entry : String × Gradient} (second : entry ∈ category.2) :
    ∃ address node, Reached nodes address node ∧ Node.ofJson node = .gradient entry.2 := by
  have stored := storedCategories_gradients nodes
  have own := (stored.each category first).2
  have found : gradientAt? (gradients nodes) category.1 entry.1 = some entry.2 := by
    rw [gradientAt?, Entries.get?_eq_some_of_mem stored.distinct first, Option.bind_some,
      Entries.get?_eq_some_of_mem own.distinct second]
  have last := ((gradients_reads nodes).last category.1 entry.1 entry.2).mp found
  obtain ⟨address, node, reached, leaf, _⟩ :=
    mem_placedGradients_iff.mp (mem_of_lastGrouped?_eq_some last)
  exact ⟨address, node, reached, leaf⟩

end Export

namespace Model

variable {model : Model}

/-- The numbers of a model keep to the limit of digits, also those among its colors. -/
structure Limited (model : Model) : Prop where
  colors : model.colors.toJson.Throughout Json.NumberLimited
  numbers : ∀ x ∈ model.numbers, x.Limited

theorem Limited.of_mem_styles (limited : model.Limited) {entry : StyleEntry}
    (mem : entry ∈ model.styles) : ∀ x ∈ entry.style.numbers, x.Limited :=
  fun _ own => limited.numbers _
    (List.mem_append_left _ (List.mem_flatMap.mpr ⟨entry, mem, own⟩))

theorem limited_of_checkGradients {value : Json}
    {gradients : Option (Entries (Entries Gradient))} (h : checkGradients value = .ok gradients)
    (limited : value.Throughout Json.NumberLimited) :
    ∀ category ∈ gradients.getD [], ∀ entry ∈ category.2, ∀ x ∈ entry.2.numbers, x.Limited := by
  cases value with
  | null =>
      cases h
      exact List.forall_mem_nil _
  | object members =>
      obtain ⟨categories, accepted, rfl⟩ := Shape.exists_of_map_eq_ok h
      intro category first entry second
      obtain ⟨member, here, own⟩ := (Shape.of_values_eq_ok accepted).2 category first
      have below := limited.member member here
      obtain ⟨name, value⟩ := member
      cases value with
      | object inner =>
          obtain ⟨⟨label, record⟩, there, passed⟩ := (Shape.of_values_eq_ok own).2 entry second
          cases record with
          | object fields => exact Gradient.limited_of_check passed (below.member _ there)
          | _ => cases passed
      | _ => cases own
  | _ => cases h

theorem Loaded.validated (loaded : model.Loaded) : model.Validated := by
  cases loaded with
  | ofExport held => exact validated_model _
  | ofRecord held given => exact .ofRecord given

/-- The gradients of a model that comes from a text keep to the limit. -/
theorem Loaded.limited_gradients (loaded : model.Loaded) :
    ∀ category ∈ model.gradients.getD [], ∀ entry ∈ category.2,
      ∀ x ∈ entry.2.numbers, x.Limited := by
  cases loaded with
  | @ofExport _ sections held =>
      have document := Json.isDocument_of_read held
      intro category first entry second
      cases found : Export.section? "gradient" sections with
      | none =>
          simp [Export.model, found] at first
      | some nodes =>
          have inside := Export.isDocument_section? document "gradient"
          simp only [Export.model, found, Option.map_some, Option.getD_some] at first inside
          obtain ⟨address, node, reached, leaf⟩ :=
            Export.exists_reached_of_mem_gradients first second
          apply Export.limited_of_ofJson_gradient leaf
          exact (reached.throughout inside.member).mono fun _ own => own.2
  | @ofRecord _ value _ held given =>
      have document := Json.isDocument_of_read held
      cases value with
      | object fields =>
          obtain ⟨_, gradients, one, drawn, rfl⟩ := Shape.exists_of_both_eq_ok given
          obtain ⟨_, typography, two, _, rfl⟩ := Shape.exists_of_both_eq_ok one
          obtain ⟨colors, _, rfl⟩ := Shape.exists_of_map_eq_ok two
          rcases Shape.eq_default_or_exists_mem_of_optionalField_eq_ok drawn with
            rfl | ⟨member, mem, drawn⟩
          · exact List.forall_mem_nil _
          · apply limited_of_checkGradients drawn
            exact (document.member member mem).mono fun _ own => own.2
      | _ => cases given

/-- All numbers of a model that comes from a text keep to the limit. -/
theorem Loaded.limited (loaded : model.Loaded) : model.Limited where
  colors := loaded.wellFormed.colors.mono fun _ own => own.2
  numbers := by
    intro x mem
    rcases List.mem_append.mp mem with mem | mem
    · obtain ⟨entry, here, own⟩ := List.mem_flatMap.mp mem
      obtain ⟨device, first, locale, second, third, -, -⟩ := mem_styles here
      have locales := (loaded.wellFormed.typography.each device first).2
      exact ((locales.each locale second).2.each _ third).limited x own
    · obtain ⟨entry, here, own⟩ := List.mem_flatMap.mp mem
      obtain ⟨category, first, second, -⟩ := mem_gradientEntries here
      exact loaded.limited_gradients category first _ second x own

end Model

end DesignTokens
