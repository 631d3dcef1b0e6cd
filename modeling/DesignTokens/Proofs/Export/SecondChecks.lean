import DesignTokens.Export.Guarded
import DesignTokens.Proofs.Export.DroppedNodes
import DesignTokens.Proofs.Tree.Members

/-!
# Checks that never fail

The reader guards the check of a token's value alone. The checks behind it, of a gradient that
is built from its payload and of the model that is built from its sections, succeed on
everything that the guarded checks and the sections give, and change nothing but the form of a
rotation. Reading never breaks off, and what it gives is what the sections gave.
-/

namespace DesignTokens

namespace Shape

theorem number_eq_map_givenNumber (value : Json) :
    number value = (givenNumber value).map Number.normalize := by
  cases value with
  | string s =>
      rw [number, givenNumber]
      cases Number.ofText? s with
      | some x => rfl
      | none => rfl
  | _ => rfl

/-- A field whose value is changed after its check. -/
theorem field_map {α β γ : Type} (name : String) (others : List String) (check : β → Checked α)
    (f : α → γ) (record : Entries β) :
    field name others (fun value => (check value).map f) record =
      (field name others check record).map f := by
  unfold field
  cases given? (name :: others) record with
  | none => rfl
  | some value => cases h : check value <;> simp [h, below, Except.map]

/-- Parts that are accepted one by one are accepted as a mapping. -/
theorem Given.mappingOf_ofEntries {α β : Type} {check : Given α → Checked β}
    {part : β → Given α} {entries : Entries β}
    (accepted : ∀ entry ∈ entries, check (part entry.2) = .ok entry.2) :
    mappingOf check (ofEntries part entries) = .ok entries :=
  values_mapValues accepted

end Shape

namespace GradientPayload

/-- The gradient of a payload: the rotation is stored. -/
def toGradient (payload : GradientPayload) : Gradient :=
  ⟨payload.kind, payload.rotation.normalize, payload.stops⟩

/-- Whatever a payload holds, the gradient is built from it. -/
theorem build_toFields (payload : GradientPayload) :
    Gradient.build payload.toFields = .ok payload.toGradient := by
  have stops : Shape.itemsFrom 0 (Shape.Given.recordOf GradientStop.check)
      (payload.stops.map .record) = .ok payload.stops :=
    Shape.itemsFrom_map fun _ _ => rfl
  simp [Gradient.build, toFields, Shape.field, Shape.optionalField, Shape.given?, Entries.get?,
    Shape.Given.string, Shape.string, Shape.Given.number, Shape.number, Shape.Given.items,
    Shape.Given.items?, stops, Except.map, toGradient]

/-- Checking a payload and building the gradient is one check. -/
theorem checkPayload_eq_map (record : Entries Json) :
    Gradient.checkPayload record = (check record).map toGradient := by
  have turned : Shape.field "rotation" [] Shape.number record =
      (Shape.field "rotation" [] Shape.givenNumber record).map Number.normalize := by
    rw [← Shape.field_map]
    congr 1
    funext value
    exact Shape.number_eq_map_givenNumber value
  unfold Gradient.checkPayload check
  rw [turned]
  cases Shape.field "gradientType" ["gradient_type"] Shape.string record <;>
    cases Shape.field "rotation" [] Shape.givenNumber record <;>
      cases Shape.field "stops" [] (Shape.items .notList (Shape.record GradientStop.check))
        record <;> rfl

end GradientPayload

namespace Model

open Shape (Given)

theorem isEmptyLocale_ofEntries (styles : Entries TextStyle) :
    isEmptyLocale (Given.ofEntries .record styles) = styles.isEmpty := by
  cases styles <;> rfl

/-- A device keeps its locales if it has some and each of them has a style. -/
theorem occupiedDevice?_ofEntries (device : String) {locales : Entries (Entries TextStyle)}
    (some? : locales ≠ []) (occupied : ∀ locale ∈ locales, locale.2 ≠ []) :
    occupiedDevice? (device, Given.ofEntries (Given.ofEntries .record) locales) =
      some (device, Given.ofEntries (Given.ofEntries .record) locales) := by
  have all : (locales.mapValues (Given.ofEntries Given.record)).filter
      (fun entry => !isEmptyLocale entry.2) = locales.mapValues (Given.ofEntries .record) := by
    rw [List.filter_eq_self]
    intro entry mem
    obtain ⟨locale, here, rfl⟩ := List.mem_map.mp mem
    simpa [isEmptyLocale_ofEntries] using occupied locale here
  have members : Given.members? (Given.ofEntries (Given.ofEntries Given.record) locales) =
      some (locales.mapValues (Given.ofEntries .record)) := rfl
  simp only [occupiedDevice?, members, all]
  cases locales with
  | nil => exact absurd rfl some?
  | cons locale rest => rfl

/-- Styles in locales and devices that all have some are accepted as they are. -/
theorem buildTypography_ofEntries {devices : Entries (Entries (Entries TextStyle))}
    (occupied : ∀ device ∈ devices, device.2 ≠ [] ∧ ∀ locale ∈ device.2, locale.2 ≠ []) :
    buildTypography (Export.givenTypography devices) = .ok devices := by
  have kept : ∀ device ∈ devices,
      occupiedDevice? (device.1, Given.ofEntries (Given.ofEntries .record) device.2) =
        some (device.1, Given.ofEntries (Given.ofEntries .record) device.2) := by
    intro device mem
    obtain ⟨some?, each⟩ := occupied device mem
    exact occupiedDevice?_ofEntries device.1 some? each
  have same : (devices.mapValues (Given.ofEntries (Given.ofEntries Given.record))).filterMap
      occupiedDevice? = devices.mapValues (Given.ofEntries (Given.ofEntries .record)) := by
    rw [Entries.mapValues, List.filterMap_map, ← List.filterMap_eq_map]
    exact List.filterMap_congr kept
  have members : Given.members? (Export.givenTypography devices) =
      some (devices.mapValues (Given.ofEntries (Given.ofEntries .record))) := rfl
  simp only [buildTypography, members, same]
  exact Given.mappingOf_ofEntries fun _ _ => Given.mappingOf_ofEntries fun _ _ =>
    Given.mappingOf_ofEntries fun _ _ => rfl

theorem buildGradients_givenGradients (gradients : Option (Entries (Entries Gradient))) :
    buildGradients (Export.givenGradients gradients) = .ok gradients := by
  cases gradients with
  | none => rfl
  | some categories =>
      have accepted : Given.mappingOf (Given.mappingOf (Given.recordOf Gradient.check))
          (Given.ofEntries (Given.ofEntries .record) categories) = .ok categories :=
        Given.mappingOf_ofEntries fun _ _ => Given.mappingOf_ofEntries fun _ _ => rfl
      rw [Export.givenGradients, Given.ofEntries, buildGradients, ← Given.ofEntries, accepted]
      · rfl
      · simp

theorem checkColors_toJson_map_string (tree : Tree String) :
    checkColors (tree.map .string).toJson = .ok (tree.map .string) := by
  rw [Tree.toJson, checkColors, Tree.ofMembers_toMembers_map_string]

end Model

namespace Export

namespace Node

theorem decodeLeaf_eq (tag : String) (payload : Json) :
    decodeLeaf tag payload = .ok (ofLeaf tag payload) := by
  unfold decodeLeaf
  split
  case isTrue gradient =>
      subst gradient
      unfold ofLeaf
      rw [if_neg (by decide), if_neg (by decide), if_pos rfl]
      cases payload with
      | object record =>
          simp only [GradientPayload.checkPayload_eq_map]
          cases GradientPayload.check record with
          | error issues => rfl
          | ok payload =>
              simp only [GradientPayload.build_toFields]
              rfl
      | _ => rfl
  case isFalse => rfl

/-- No node breaks the reading off. -/
theorem decodeMembers_eq (members : List (String × Json)) :
    decodeMembers members = .ok (ofMembers members) := by
  unfold decodeMembers ofMembers
  cases tagged? members with
  | some leaf => exact decodeLeaf_eq leaf.1 leaf.2
  | none => rfl

theorem decode_eq (value : Json) : decode value = .ok (ofJson value) := by
  cases value with
  | object members => exact decodeMembers_eq members
  | _ => rfl

end Node

section Sections

theorem colorNodeInto_eq :
    (∀ value path, ∀ result, colorNodeInto path result value = .ok (nodeInto path result value)) ∧
      ∀ nodes parent, ∀ result,
        colorNodesInto parent result nodes = .ok (nodesInto parent result nodes) := by
  apply visitInduction
  case group =>
    intro path members h ih result
    have kind : Node.ofMembers members = .group members := h
    simp only [colorNodeInto, Node.decodeMembers_eq, nodeInto, kind, ih, bind, Except.bind]
  case other =>
    intro path value h result
    cases value with
    | object members =>
        simp only [colorNodeInto, Node.decodeMembers_eq, nodeInto, bind, Except.bind]
        cases kind : Node.ofMembers members with
        | group children => exact absurd kind (h children)
        | color value => cases Key.segments path <;> rfl
        | _ => rfl
    | _ => simp [colorNodeInto, nodeInto]
  case nil =>
    intro parent result
    rw [colorNodesInto, nodesInto]
  case cons =>
    intro parent name value rest own others result
    simp only [colorNodesInto, nodesInto, own, others, bind, Except.bind]

theorem gradientNodeInto_eq :
    (∀ value path, ∀ result, gradientNodeInto path result value =
      .ok ((gradientsAt path value).foldl putGradient result)) ∧
      ∀ nodes parent, ∀ result, gradientNodesInto parent result nodes =
        .ok ((gradientsBelow parent nodes).foldl putGradient result) := by
  apply visitInduction
  case group =>
    intro path members h ih result
    have kind : Node.ofMembers members = .group members := h
    simp only [gradientNodeInto, Node.decodeMembers_eq, gradientsAt, kind, ih, bind, Except.bind]
  case other =>
    intro path value h result
    cases value with
    | object members =>
        simp only [gradientNodeInto, Node.decodeMembers_eq, gradientsAt, bind, Except.bind]
        cases kind : Node.ofMembers members with
        | group children => exact absurd kind (h children)
        | _ => rfl
    | _ => simp [gradientNodeInto, gradientsAt]
  case nil =>
    intro parent result
    rw [gradientNodesInto, gradientsBelow, List.foldl_nil]
  case cons =>
    intro parent name value rest own others result
    simp only [gradientNodesInto, gradientsBelow, own, others, List.foldl_append, bind,
      Except.bind]

/-- A fold none of whose steps breaks off. -/
theorem foldlM_of_each {σ α : Type} {step : σ → α → Shape.Checked σ} {put : σ → α → σ}
    (each : ∀ state item, step state item = .ok (put state item)) (items : List α)
    (state : σ) : items.foldlM step state = .ok (items.foldl put state) := by
  have steps : step = fun state item => pure (put state item) := by
    funext state item
    exact each state item
  rw [steps]
  exact List.foldlM_pure

theorem putStyleNode_eq (styles : Entries TextStyle) (member : String × Json) :
    putStyleNode styles member = .ok (stylesInto styles [member]) := by
  simp only [putStyleNode, Node.decode_eq, stylesInto, List.foldl_cons, List.foldl_nil, bind,
    Except.bind]
  cases Node.ofJson member.2 <;> rfl

theorem foldlM_putStyleNode (styles : Entries TextStyle) (members : List (String × Json)) :
    members.foldlM putStyleNode styles = .ok (stylesInto styles members) :=
  foldlM_of_each putStyleNode_eq members styles

theorem putLocaleNode_eq (locales : Entries (Entries TextStyle)) (member : String × Json) :
    putLocaleNode locales member = .ok (putLocale locales member.1 member.2) := by
  simp only [putLocaleNode, Node.decode_eq, putLocale, bind, Except.bind]
  cases Node.ofJson member.2 with
  | group children =>
      simp only [foldlM_putStyleNode]
      rfl
  | _ => rfl

theorem foldlM_putLocaleNode (locales : Entries (Entries TextStyle))
    (members : List (String × Json)) :
    members.foldlM putLocaleNode locales =
      .ok (members.foldl (fun found member => putLocale found member.1 member.2) locales) :=
  foldlM_of_each putLocaleNode_eq members locales

theorem putDeviceNode_eq (devices : Entries (Entries (Entries TextStyle)))
    (member : String × Json) :
    putDeviceNode devices member = .ok (devices ++ typography [member]) := by
  obtain ⟨device, value⟩ := member
  cases value with
  | object children =>
      simp only [putDeviceNode, foldlM_putLocaleNode, ← locales_eq_filter_foldl, bind,
        Except.bind]
      cases found : locales children <;> simp [typography, found]
  | _ => simp [putDeviceNode, typography]

theorem foldl_append_typography (devices : Entries (Entries (Entries TextStyle)))
    (nodes : List (String × Json)) :
    nodes.foldl (fun devices member => devices ++ typography [member]) devices =
      devices ++ typography nodes := by
  induction nodes generalizing devices with
  | nil => exact (List.append_nil devices).symm
  | cons member rest ih =>
      have split : typography (member :: rest) = typography [member] ++ typography rest :=
        List.filterMap_append (l := [member])
      rw [List.foldl_cons, ih, split, List.append_assoc]

theorem foldlM_putDeviceNode (devices : Entries (Entries (Entries TextStyle)))
    (nodes : List (String × Json)) :
    nodes.foldlM putDeviceNode devices = .ok (devices ++ typography nodes) := by
  rw [foldlM_of_each putDeviceNode_eq, foldl_append_typography]

/-- What the sections of an export give. -/
def sectionResults (sections : Entries Json) : SectionResults where
  colors := colors "" ((section? "color" sections).getD [])
  typography := typography ((section? "font" sections).getD [])
  gradients := (section? "gradient" sections).map gradients

theorem decodeSections_eq (sections : Entries Json) :
    decodeSections sections = .ok (sectionResults sections) := by
  have colors : ∀ nodes, decodeColors nodes = .ok (colors "" nodes) := fun nodes =>
    colorNodeInto_eq.2 nodes "" .nil
  have typography : ∀ nodes, decodeTypography nodes = .ok (typography nodes) := fun nodes =>
    foldlM_putDeviceNode [] nodes
  have gradients : ∀ nodes, decodeGradients nodes = .ok (gradients nodes) := fun nodes =>
    gradientNodeInto_eq.2 nodes "" []
  simp only [decodeSections, colors, typography, bind, Except.bind, sectionResults]
  cases section? "gradient" sections with
  | none => rfl
  | some nodes => simp [Option.mapM_some, gradients, Functor.map, Except.map]

/-- Sections whose devices and locales all have styles build the model that holds them. -/
theorem SectionResults.build_eq {results : SectionResults}
    (occupied : ∀ device ∈ results.typography,
      device.2 ≠ [] ∧ ∀ locale ∈ device.2, locale.2 ≠ []) :
    results.build =
      .ok ⟨results.colors.map .string, results.typography, results.gradients⟩ := by
  simp [build, Model.build, Model.checkColors_toJson_map_string,
    Model.buildTypography_ofEntries occupied, Model.buildGradients_givenGradients, Except.map]

end Sections

/-- Nothing breaks the reading of an export off. A gradient is built from whatever the check of
a payload gives, and only its rotation is brought into the stored form; the three sections give
their results; and the model that is built from them holds them as they are. -/
theorem decode_succeeds (sections : Entries Json) :
    (∀ record payload, GradientPayload.check record = .ok payload →
      Gradient.build payload.toFields =
        .ok ⟨payload.kind, payload.rotation.normalize, payload.stops⟩) ∧
    ∃ results built, decodeSections sections = .ok results ∧
      decode sections = .ok built ∧
      built.colors = results.colors.map .string ∧
      built.typography = results.typography ∧
      built.gradients = results.gradients ∧
      built = model sections := by
  refine ⟨fun _ payload _ => GradientPayload.build_toFields payload, sectionResults sections,
    model sections, decodeSections_eq sections, ?_, rfl, rfl, rfl, rfl⟩
  have occupied : ∀ device ∈ (sectionResults sections).typography,
      device.2 ≠ [] ∧ ∀ locale ∈ device.2, locale.2 ≠ [] := by
    intro device mem
    obtain ⟨some?, stored⟩ := storedLocales_of_mem_typography mem
    exact ⟨some?, fun locale here => (stored.each locale here).1⟩
  simp only [decode, decodeSections_eq, bind, Except.bind]
  exact SectionResults.build_eq occupied

/-- Ninety, as a fraction. -/
def ninety : Number :=
  .real (.finite false ⟨4636033603912859648, by decide⟩)

/-- A payload whose rotation is a fraction and whose stop stands at a truth value. -/
def turnedPayload : Entries Json := [
  ("gradient_type", .string "linear"), ("rotation", .number ninety),
  ("stops", .array [.object [("position", .bool true), ("color", .string "#fff")]])]

/-- An export with a gradient of this payload. -/
def turnedSections : Entries Json :=
  [("gradient", .object [("dawn", leafNode "custom-gradient" (.object turnedPayload))])]

/-- The check of the payload keeps the fraction, and the gradient is built with the whole
number. -/
theorem decode_succeeds_turnedSections :
    GradientPayload.check turnedPayload = .ok ⟨"linear", ninety, [⟨.integer 1, "#fff"⟩]⟩ ∧
    Gradient.build (GradientPayload.toFields ⟨"linear", ninety, [⟨.integer 1, "#fff"⟩]⟩) =
      .ok ⟨"linear", .integer 90, [⟨.integer 1, "#fff"⟩]⟩ ∧
    ∃ built, decode turnedSections = .ok built ∧
      built.gradients =
        some [("default", [("dawn", ⟨"linear", .integer 90, [⟨.integer 1, "#fff"⟩]⟩)])] := by
  obtain ⟨builds, results, built, _, decoded, _, _, _, same⟩ := decode_succeeds turnedSections
  have accepted : GradientPayload.check turnedPayload =
      .ok ⟨"linear", ninety, [⟨.integer 1, "#fff"⟩]⟩ := by
    decide +kernel
  have whole : ninety.normalize = .integer 90 := by
    decide +kernel
  refine ⟨accepted, ?_, built, decoded, ?_⟩
  · rw [builds turnedPayload _ accepted, whole]
  · rw [same]
    decide +kernel

end Export

end DesignTokens
