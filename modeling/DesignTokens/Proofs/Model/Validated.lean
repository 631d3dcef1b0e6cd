import DesignTokens.Proofs.Export.FoundGradients
import DesignTokens.Proofs.Export.SecondChecks

/-!
# Validated models

A model is validated when it is read from an export with every check, given as a record, or built
from parts. Records among the parts have passed their own check before and are not looked at
again. All three ways lead through one function that builds a model from its sections, so what
this function gives for sections of stored records is true of every validated model.
-/

namespace DesignTokens

theorem Entries.get?_mapValues {α β : Type} (f : α → β) (name : String) (entries : Entries α) :
    (entries.mapValues f).get? name = (entries.get? name).map f := by
  induction entries with
  | nil => rfl
  | cons entry rest ih =>
      obtain ⟨key, value⟩ := entry
      by_cases same : key = name
      · simp [mapValues, get?, same]
      · simpa [mapValues, get?, same] using ih

namespace Shape

variable {α β γ : Type} {holds : α → Prop}

theorem given?_mapValues (f : β → γ) (names : List String) (record : Entries β) :
    given? names (record.mapValues f) = (given? names record).map f := by
  induction names with
  | nil => rfl
  | cons name rest ih =>
      unfold given? at ih ⊢
      rw [List.findSome?_cons, List.findSome?_cons, Entries.get?_mapValues]
      cases record.get? name with
      | none => exact ih
      | some value => rfl

theorem field_mapValues {check : γ → Checked α} (f : β → γ) (name : String)
    (others : List String) (record : Entries β) :
    field name others check (record.mapValues f) =
      field name others (fun value => check (f value)) record := by
  rw [field, field, given?_mapValues]
  cases given? (name :: others) record <;> rfl

theorem optionalField_mapValues {check : γ → Checked α} (f : β → γ) (name : String)
    (others : List String) (default : α) (record : Entries β) :
    optionalField name others default check (record.mapValues f) =
      optionalField name others default (fun value => check (f value)) record := by
  rw [optionalField, optionalField, given?_mapValues]
  cases given? (name :: others) record <;> rfl

/-- A field that may be left out is checked as if a value that gives its default stood there. -/
theorem optionalField_eq_below {check : β → Checked α} {default : α} {absent : β}
    (vacant : check absent = .ok default) (name : String) (record : Entries β) :
    optionalField name [] default check record =
      below name (check ((record.get? name).getD absent)) := by
  unfold optionalField given?
  rw [List.findSome?_cons, List.findSome?_nil]
  cases record.get? name with
  | none => simp [vacant]
  | some value => rfl

theorem values_mapValues_comp {check : γ → Checked α} (f : β → γ) (members : Entries β) :
    values check (members.mapValues f) = values (fun value => check (f value)) members := by
  induction members with
  | nil => rfl
  | cons member rest ih => exact congrArg (both _) ih

theorem itemsFrom_map_comp {check : γ → Checked α} (f : β → γ) (position : Nat)
    (list : List β) :
    itemsFrom position check (list.map f) =
      itemsFrom position (fun value => check (f value)) list := by
  induction list generalizing position with
  | nil => rfl
  | cons item rest ih => exact congrArg (both _) (ih (position + 1))

namespace Given

/-- Every checked record among the parts has a property. -/
inductive Holds (holds : α → Prop) : Given α → Prop where
  | plain (value : Json) : Holds holds (.plain value)
  | record {checked : α} (own : holds checked) : Holds holds (.record checked)
  | list {items : List (Given α)} (each : ∀ item ∈ items, Holds holds item) :
      Holds holds (.list items)
  | mapping {members : List (String × Given α)}
      (each : ∀ member ∈ members, Holds holds member.2) : Holds holds (.mapping members)

variable {given : Given α}

theorem Holds.mono {wider : α → Prop} (h : given.Holds holds) (imp : ∀ x, holds x → wider x) :
    given.Holds wider := by
  induction h with
  | plain value => exact .plain value
  | record own => exact .record (imp _ own)
  | list _ ih => exact .list ih
  | mapping _ ih => exact .mapping ih

theorem Holds.member (h : given.Holds holds) {members : Entries (Given α)}
    (split : given.members? = some members) : ∀ member ∈ members, member.2.Holds holds := by
  cases h with
  | plain value =>
      cases value with
      | object fields =>
          cases split
          intro member mem
          obtain ⟨field, _, rfl⟩ := List.mem_map.mp mem
          exact .plain field.2
      | _ => cases split
  | record own => cases split
  | list each => cases split
  | mapping each =>
      cases split
      exact each

theorem Holds.item (h : given.Holds holds) {items : List (Given α)}
    (split : given.items? = some items) : ∀ item ∈ items, item.Holds holds := by
  cases h with
  | plain value =>
      cases value with
      | array list =>
          cases split
          intro item mem
          obtain ⟨value, _, rfl⟩ := List.mem_map.mp mem
          exact .plain value
      | _ => cases split
  | record own => cases split
  | list each =>
      cases split
      exact each
  | mapping each => cases split

theorem holds_ofEntries {part : β → Given α} {entries : Entries β}
    (each : ∀ entry ∈ entries, (part entry.2).Holds holds) :
    (ofEntries part entries).Holds holds := by
  apply Holds.mapping
  intro member mem
  obtain ⟨entry, here, rfl⟩ := List.mem_map.mp mem
  exact each entry here

/-- A record that is taken as it is has the property, and so has one that passes the check. -/
theorem of_recordOf_eq_ok {check : Entries Json → Checked α} {result : α}
    (checked : ∀ record x, check record = .ok x → holds x) (h : given.Holds holds)
    (accepted : recordOf check given = .ok result) : holds result := by
  cases h with
  | plain value =>
      cases value with
      | object record => exact checked record result accepted
      | _ => cases accepted
  | record own =>
      cases accepted
      exact own
  | list each => cases accepted
  | mapping each => cases accepted

theorem of_mappingOf_eq_ok {check : Given α → Checked β} {kept : β → Prop} {result : Entries β}
    (checked : ∀ part, part.Holds holds → ∀ x, check part = .ok x → kept x)
    (h : given.Holds holds) (accepted : mappingOf check given = .ok result) :
    ∀ entry ∈ result, kept entry.2 := by
  unfold mappingOf at accepted
  split at accepted
  case h_1 members split =>
      intro entry mem
      obtain ⟨member, here, own⟩ := (of_values_eq_ok accepted).2 entry mem
      exact checked member.2 (h.member split member here) entry.2 own
  case h_2 => cases accepted

theorem of_items_eq_ok {check : Given α → Checked β} {kept : β → Prop} {other : Problem}
    {result : List β} (checked : ∀ part, part.Holds holds → ∀ x, check part = .ok x → kept x)
    (h : given.Holds holds) (accepted : items other check given = .ok result) :
    ∀ item ∈ result, kept item := by
  unfold items at accepted
  split at accepted
  case h_1 parts split =>
      intro item mem
      obtain ⟨part, here, own⟩ := exists_mem_of_mem_itemsFrom accepted item mem
      exact checked part (h.item split part here) item own
  case h_2 => cases accepted

/-- A mapping of a document is checked as its members are. -/
theorem mappingOf_plain {check : Given α → Checked β} {plainCheck : Json → Checked β}
    (same : ∀ value, check (.plain value) = plainCheck value) (value : Json) :
    mappingOf check (.plain value) = Shape.mapping plainCheck value := by
  cases value with
  | object members =>
      have inside : (fun value => check (.plain value)) = plainCheck := funext same
      change values check (Entries.mapValues .plain members) = values plainCheck members
      rw [values_mapValues_comp, inside]
  | _ => rfl

theorem items_plain {check : Given α → Checked β} {plainCheck : Json → Checked β}
    {other : Problem} (same : ∀ value, check (.plain value) = plainCheck value) (value : Json) :
    items other check (.plain value) = Shape.items other plainCheck value := by
  cases value with
  | array list =>
      have inside : (fun value => check (.plain value)) = plainCheck := funext same
      change itemsFrom 0 check (list.map .plain) = itemsFrom 0 plainCheck list
      rw [itemsFrom_map_comp, inside]
  | _ => rfl

end Given

end Shape

open Shape (Given)

/-- A style that has passed its check. -/
def TextStyle.Accepted (style : TextStyle) : Prop :=
  ∃ record, TextStyle.check record = .ok style

/-- A stop that has passed its check. -/
def GradientStop.Accepted (stop : GradientStop) : Prop :=
  ∃ record, GradientStop.check record = .ok stop

/-- The position of a stop is in stored form. -/
def GradientStop.Stored (stop : GradientStop) : Prop :=
  stop.position.normalize = stop.position

namespace Gradient

/-- A gradient that was built from fields, among which there may be stops that have passed their
check. -/
def Accepted (gradient : Gradient) : Prop :=
  ∃ fields : Entries (Given GradientStop),
    (∀ field ∈ fields, field.2.Holds GradientStop.Accepted) ∧ build fields = .ok gradient

/-- A record is checked as its fields are when a gradient is built from them. -/
theorem check_eq_build (record : Entries Json) :
    check record = build (record.mapValues .plain) := by
  have stops : (fun value => Given.items .notSequence (Given.recordOf GradientStop.check)
      (.plain value)) = Shape.items .notSequence (Shape.record GradientStop.check) :=
    funext (Given.items_plain fun _ => rfl)
  simp only [check, build, Shape.field_mapValues, Shape.optionalField_mapValues, stops]
  rfl

theorem Accepted.stored {gradient : Gradient} (accepted : gradient.Accepted) :
    gradient.Stored := by
  obtain ⟨fields, each, built⟩ := accepted
  obtain ⟨_, stops, two, listed, rfl⟩ := Shape.exists_of_both_eq_ok built
  obtain ⟨_, rotation, one, turned, rfl⟩ := Shape.exists_of_both_eq_ok two
  obtain ⟨kind, _, rfl⟩ := Shape.exists_of_map_eq_ok one
  constructor
  case rotation =>
      obtain ⟨⟨_, part⟩, _, turned⟩ := Shape.exists_mem_of_field_eq_ok turned
      cases part with
      | plain value => exact Shape.normalize_of_number_eq_ok turned
      | _ => cases turned
  case stops =>
      rcases Shape.eq_default_or_exists_mem_of_optionalField_eq_ok listed with
        rfl | ⟨field, mem, listed⟩
      · simp
      · have placed : ∀ part : Given GradientStop, part.Holds GradientStop.Accepted →
            ∀ stop, Given.recordOf GradientStop.check part = .ok stop → stop.Stored := by
          intro part known stop accepted
          apply Given.of_recordOf_eq_ok _ _ accepted
          · exact fun _ _ => GradientStop.normalize_of_check
          · exact known.mono fun _ ⟨_, passed⟩ => GradientStop.normalize_of_check passed
        exact Given.of_items_eq_ok placed (each field mem) listed

theorem accepted_of_check {record : Entries Json} {gradient : Gradient}
    (h : check record = .ok gradient) : gradient.Accepted := by
  refine ⟨record.mapValues .plain, ?_, (check_eq_build record).symm.trans h⟩
  intro field mem
  obtain ⟨member, _, rfl⟩ := List.mem_map.mp mem
  exact .plain member.2

end Gradient

namespace Model

/-- A model that is read from an export with every check, given as a record, or built from parts
whose records have passed their checks. -/
inductive Validated : Model → Prop where
  | ofExport {sections : Entries Json} {model : Model}
      (read : Export.decode sections = .ok model) : Validated model
  | ofRecord {value : Json} {model : Model} (given : check value = .ok model) : Validated model
  | ofParts {colors : Json} {typography : Given TextStyle} {gradients : Given Gradient}
      {model : Model} (styles : typography.Holds TextStyle.Accepted)
      (drawn : gradients.Holds Gradient.Accepted)
      (built : build colors typography gradients = .ok model) : Validated model

section Occupied

/-- A device that is kept holds the locales that are not empty, unless it is no mapping. -/
theorem of_occupiedDevice?_eq_some {device kept : String × Given TextStyle}
    (found : occupiedDevice? device = some kept) :
    kept.1 = device.1 ∧
      ((∃ locales, device.2.members? = some locales ∧
          locales.filter (fun entry => !isEmptyLocale entry.2) ≠ [] ∧
          kept.2 = .mapping (locales.filter fun entry => !isEmptyLocale entry.2)) ∨
        device.2.members? = none ∧ kept.2 = device.2) := by
  unfold occupiedDevice? at found
  split at found
  case h_1 locales inside =>
      split at found
      case h_1 => cases found
      case h_2 occupied =>
          cases found
          exact ⟨rfl, Or.inl ⟨locales, inside, occupied, rfl⟩⟩
  case h_2 outside =>
      cases found
      exact ⟨rfl, Or.inr ⟨outside, rfl⟩⟩

/-- Styles that are accepted were given as a mapping, and its devices that are not empty were
accepted one by one. -/
theorem exists_values_of_buildTypography {given : Given TextStyle}
    {devices : Entries (Entries (Entries TextStyle))}
    (built : buildTypography given = .ok devices) :
    ∃ members, given.members? = some members ∧
      Shape.values (Given.mappingOf (Given.mappingOf (Given.recordOf TextStyle.check)))
        (members.filterMap occupiedDevice?) = .ok devices := by
  unfold buildTypography at built
  cases split : given.members? with
  | none =>
      simp only [split, Given.mappingOf] at built
      cases built
  | some members =>
      simp only [split] at built
      exact ⟨members, rfl, built⟩

theorem holds_of_occupiedDevice? {holds : TextStyle → Prop} {device kept : String × Given TextStyle}
    (held : device.2.Holds holds) (found : occupiedDevice? device = some kept) :
    kept.2.Holds holds := by
  obtain ⟨-, ⟨locales, inside, -, same⟩ | ⟨-, same⟩⟩ := of_occupiedDevice?_eq_some found
  · rw [same]
    exact .mapping fun locale mem => held.member inside locale (List.mem_of_mem_filter mem)
  · rw [same]
    exact held

/-- The styles of a model that is built are stored if the records among its parts are. -/
theorem stored_of_buildTypography {given : Given TextStyle}
    {devices : Entries (Entries (Entries TextStyle))} (held : given.Holds TextStyle.Stored)
    (built : buildTypography given = .ok devices) :
    ∀ device ∈ devices, ∀ locale ∈ device.2, ∀ style ∈ locale.2, style.2.Stored := by
  obtain ⟨members, split, accepted⟩ := exists_values_of_buildTypography built
  have styles : ∀ part : Given TextStyle, part.Holds TextStyle.Stored → ∀ style,
      Given.recordOf TextStyle.check part = .ok style → style.Stored := fun part known style =>
    Given.of_recordOf_eq_ok (fun _ _ => TextStyle.stored_of_check) known
  have locales : ∀ part : Given TextStyle, part.Holds TextStyle.Stored →
      ∀ locales : Entries (Entries TextStyle),
        Given.mappingOf (Given.mappingOf (Given.recordOf TextStyle.check)) part = .ok locales →
          ∀ locale ∈ locales, ∀ style ∈ locale.2, style.2.Stored := fun part known locales =>
    Given.of_mappingOf_eq_ok (fun part known _ => Given.of_mappingOf_eq_ok styles known) known
  have kept : (Given.mapping (members.filterMap occupiedDevice?)).Holds TextStyle.Stored := by
    apply Given.Holds.mapping
    intro kept mem
    obtain ⟨device, here, found⟩ := List.mem_filterMap.mp mem
    exact holds_of_occupiedDevice? (held.member split device here) found
  exact Given.of_mappingOf_eq_ok locales kept accepted

/-- The gradients of a model that is built are stored if the records among its parts are. -/
theorem stored_of_buildGradients {given : Given Gradient}
    {gradients : Option (Entries (Entries Gradient))} (held : given.Holds Gradient.Stored)
    (built : buildGradients given = .ok gradients) :
    ∀ category ∈ gradients.getD [], ∀ gradient ∈ category.2, gradient.2.Stored := by
  have single : ∀ part : Given Gradient, part.Holds Gradient.Stored → ∀ gradient,
      Given.recordOf Gradient.check part = .ok gradient → gradient.Stored := fun part known _ =>
    Given.of_recordOf_eq_ok (fun _ _ passed => (Gradient.accepted_of_check passed).stored) known
  unfold buildGradients at built
  split at built
  case h_1 =>
      cases built
      simp
  case h_2 =>
      obtain ⟨categories, accepted, rfl⟩ := Shape.exists_of_map_eq_ok built
      exact Given.of_mappingOf_eq_ok (fun part known _ => Given.of_mappingOf_eq_ok single known)
        held accepted

end Occupied

section Records

theorem isEmptyLocale_plain (value : Json) :
    isEmptyLocale (.plain value) = isEmptyObject value := by
  cases value with
  | object members => cases members <;> rfl
  | _ => rfl

theorem filter_isEmptyLocale_mapValues (members : Entries Json) :
    (members.mapValues .plain).filter (fun entry => !isEmptyLocale entry.2) =
      (withoutEmptyLocales members).mapValues .plain := by
  rw [withoutEmptyLocales, Entries.mapValues, Entries.mapValues, List.filter_map]
  congr 2
  funext entry
  exact congrArg (!·) (isEmptyLocale_plain entry.2)

/-- The devices that a record gives are checked with the same empty ones left out. -/
theorem values_occupiedDevice? (devices : Entries Json) :
    Shape.values
        (Given.mappingOf (Given.mappingOf (Given.recordOf TextStyle.check)))
        ((devices.mapValues .plain).filterMap occupiedDevice?) =
      Shape.values (Shape.mapping (Shape.mapping (Shape.record TextStyle.check)))
        (withoutEmptyDevices devices) := by
  have locales : ∀ value,
      Given.mappingOf (Given.mappingOf (Given.recordOf TextStyle.check)) (.plain value) =
        Shape.mapping (Shape.mapping (Shape.record TextStyle.check)) value :=
    Given.mappingOf_plain (Given.mappingOf_plain fun _ => rfl)
  induction devices with
  | nil => rfl
  | cons device rest ih =>
      obtain ⟨name, value⟩ := device
      cases value with
      | object members =>
          have kept := filter_isEmptyLocale_mapValues members
          have own := locales (.object (withoutEmptyLocales members))
          unfold withoutEmptyDevices at ih ⊢
          rw [Entries.mapValues, List.map_cons, List.filterMap_cons, List.filterMap_cons]
          simp only [occupiedDevice?, Given.members?, kept]
          cases found : withoutEmptyLocales members with
          | nil => exact ih
          | cons locale others =>
              rw [found] at own
              simp only [Entries.mapValues, List.map_cons]
              change Shape.both _ _ = Shape.both _ _
              rw [← own]
              exact congrArg (Shape.both _) ih
      | _ => exact congrArg (Shape.both _) ih

theorem buildTypography_plain (value : Json) :
    buildTypography (.plain value) = checkTypography value := by
  cases value with
  | object devices => exact values_occupiedDevice? devices
  | _ => rfl

theorem buildGradients_plain (value : Json) :
    buildGradients (.plain value) = checkGradients value := by
  have drawn : ∀ value,
      Given.mappingOf (Given.mappingOf (Given.recordOf Gradient.check)) (.plain value) =
        Shape.mapping (Shape.mapping (Shape.record Gradient.check)) value :=
    Given.mappingOf_plain (Given.mappingOf_plain fun _ => rfl)
  cases value with
  | null => rfl
  | _ => simp only [buildGradients, checkGradients, drawn]

/-- A record is checked as its sections are when a model is built from them; a section that is
left out counts as empty, and gradients that are left out as null. -/
theorem check_eq_build (fields : Entries Json) :
    check (.object fields) =
      build ((fields.get? "colors").getD (.object []))
        (.plain ((fields.get? "typography").getD (.object [])))
        (.plain ((fields.get? "gradients").getD .null)) := by
  have colors : checkColors (.object []) = .ok .nil := rfl
  have typography : checkTypography (.object []) = .ok [] := rfl
  have gradients : checkGradients .null = .ok none := rfl
  change checkFields fields = _
  rw [checkFields, build, buildTypography_plain, buildGradients_plain,
    Shape.optionalField_eq_below colors, Shape.optionalField_eq_below typography,
    Shape.optionalField_eq_below gradients]

end Records

section Sections

variable {model : Model}

theorem holds_givenTypography (nodes : List (String × Json)) :
    (Export.givenTypography (Export.typography nodes)).Holds TextStyle.Stored := by
  apply Given.holds_ofEntries
  intro device mem
  have locales := (Export.storedLocales_of_mem_typography mem).2
  apply Given.holds_ofEntries
  intro locale here
  apply Given.holds_ofEntries
  intro style found
  exact .record ((locales.each locale here).2.each style found)

theorem holds_givenGradients (section? : Option (List (String × Json))) :
    (Export.givenGradients (section?.map Export.gradients)).Holds Gradient.Stored := by
  cases section? with
  | none => exact .plain .null
  | some nodes =>
      apply Given.holds_ofEntries
      intro category mem
      have entries := ((Export.storedCategories_gradients nodes).each category mem).2
      apply Given.holds_ofEntries
      intro gradient here
      exact .record (entries.each gradient here).1

/-- The model that an export describes is read with every check. -/
theorem validated_model (sections : Entries Json) : (Export.model sections).Validated := by
  refine @Validated.ofExport sections _ ?_
  simp only [Export.decode, Export.decodeSections_eq, bind, Except.bind]
  apply Export.SectionResults.build_eq
  intro device mem
  obtain ⟨some_locale, stored⟩ := Export.storedLocales_of_mem_typography mem
  exact ⟨some_locale, fun locale here => (stored.each locale here).1⟩

/-- A validated model is built from its sections, and the records among them are stored. -/
theorem Validated.exists_build (valid : model.Validated) :
    ∃ colors typography gradients, typography.Holds TextStyle.Stored ∧
      gradients.Holds Gradient.Stored ∧ build colors typography gradients = .ok model := by
  cases valid with
  | @ofExport sections _ read =>
      have built : (Export.sectionResults sections).build = .ok model := by
        simpa only [Export.decode, Export.decodeSections_eq, bind, Except.bind] using read
      exact ⟨_, _, _, holds_givenTypography _, holds_givenGradients _, built⟩
  | @ofRecord value _ given =>
      cases value with
      | object fields =>
          exact ⟨_, _, _, .plain _, .plain _, (check_eq_build fields).symm.trans given⟩
      | _ => cases given
  | ofParts styles drawn built =>
      refine ⟨_, _, _, styles.mono fun style checked => ?_,
        drawn.mono fun _ accepted => accepted.stored, built⟩
      obtain ⟨_, passed⟩ := checked
      exact TextStyle.stored_of_check passed

theorem mem_styles {entry : StyleEntry} (mem : entry ∈ model.styles) :
    ∃ device ∈ model.typography, ∃ locale ∈ device.2, (entry.name, entry.style) ∈ locale.2 ∧
      device.1 = entry.device ∧ locale.1 = entry.locale := by
  obtain ⟨device, first, mem⟩ := List.mem_flatMap.mp mem
  obtain ⟨locale, second, mem⟩ := List.mem_flatMap.mp mem
  obtain ⟨⟨name, style⟩, third, rfl⟩ := List.mem_map.mp mem
  exact ⟨device, first, locale, second, third, rfl, rfl⟩

theorem mem_gradientEntries {entry : GradientEntry} (mem : entry ∈ model.gradientEntries) :
    ∃ category ∈ model.gradients.getD [], (entry.name, entry.gradient) ∈ category.2 ∧
      category.1 = entry.category := by
  obtain ⟨category, first, mem⟩ := List.mem_flatMap.mp mem
  obtain ⟨⟨name, gradient⟩, second, rfl⟩ := List.mem_map.mp mem
  exact ⟨category, first, second, rfl⟩

/-- The sections of a model that is built were accepted one by one. -/
theorem of_build_eq_ok {colors : Json} {typography : Given TextStyle}
    {gradients : Given Gradient} (built : build colors typography gradients = .ok model) :
    checkColors colors = .ok model.colors ∧ buildTypography typography = .ok model.typography ∧
      buildGradients gradients = .ok model.gradients := by
  obtain ⟨_, drawn, two, third, rfl⟩ := Shape.exists_of_both_eq_ok built
  obtain ⟨_, styled, one, second, rfl⟩ := Shape.exists_of_both_eq_ok two
  obtain ⟨colored, first, rfl⟩ := Shape.exists_of_map_eq_ok one
  exact ⟨Shape.eq_ok_of_below_eq_ok first, Shape.eq_ok_of_below_eq_ok second,
    Shape.eq_ok_of_below_eq_ok third⟩

/-- Every style and every gradient of a validated model is stored. -/
theorem Validated.stored (valid : model.Validated) :
    (∀ entry ∈ model.styles, entry.style.Stored) ∧
      ∀ entry ∈ model.gradientEntries, entry.gradient.Stored := by
  obtain ⟨_, _, _, styles, drawn, built⟩ := valid.exists_build
  obtain ⟨-, typography, gradients⟩ := of_build_eq_ok built
  constructor
  · intro entry mem
    obtain ⟨device, first, locale, second, third, -, -⟩ := mem_styles mem
    exact stored_of_buildTypography styles typography device first locale second _ third
  · intro entry mem
    obtain ⟨category, first, second, -⟩ := mem_gradientEntries mem
    exact stored_of_buildGradients drawn gradients category first _ second

end Sections

end Model

end DesignTokens
