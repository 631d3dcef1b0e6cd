import DesignTokens.Format.CssVariables
import DesignTokens.Format.Scss
import DesignTokens.Proofs.Export.GradientOrder
import DesignTokens.Proofs.Key.Boundaries
import DesignTokens.Proofs.Model.Validated
import DesignTokens.Proofs.Text.FeedLines

/-!
# The variables of gradients

A variable of a gradient is named after its category and its name. The category and the name are
made of plain segments, so no colon ends the name of the variable early, and cutting it into
segments gives the category and the name back: no two gradients of a section share a variable.
-/

namespace DesignTokens

/-- Names of nested entries are distinct if they are on each level. -/
theorem Entries.nodup_nested {α : Type} {groups : Entries (Entries α)}
    (collected : groups.Collected fun _ entries => entries.names.Nodup) :
    (groups.flatMap fun group => group.2.map fun entry => (group.1, entry.1)).Nodup := by
  rw [List.nodup_flatMap]
  constructor
  · intro group mem
    have own := collected.each group mem
    rw [names, List.Nodup, List.pairwise_map] at own
    rw [List.Nodup, List.pairwise_map]
    exact own.imp fun apart same => apart (Prod.mk.inj same).2
  · have apart := collected.distinct
    rw [names, List.Nodup, List.pairwise_map] at apart
    refine apart.imp fun {first second} differ => ?_
    intro pair here there
    obtain ⟨_, _, rfl⟩ := List.mem_map.mp here
    obtain ⟨_, _, same⟩ := List.mem_map.mp there
    exact differ (Prod.mk.inj same).1.symm

theorem map_of_mapM_eq_ok {ε α β γ : Type} {step : α → Except ε β} {read : β → γ}
    {name : α → γ} {items : List α} {values : List β}
    (each : ∀ item ∈ items, ∀ value, step item = .ok value → read value = name item)
    (h : items.mapM step = .ok values) : values.map read = items.map name := by
  induction items generalizing values with
  | nil =>
      cases h
      rfl
  | cons item rest ih =>
      rw [List.mapM_cons] at h
      cases first : step item with
      | error fault =>
          rw [first] at h
          cases h
      | ok value =>
          cases later : rest.mapM step with
          | error fault =>
              rw [first, later] at h
              cases h
          | ok others =>
              rw [first, later] at h
              cases h
              rw [List.map_cons, List.map_cons, each item List.mem_cons_self value first,
                ih (fun other mem => each other (List.mem_cons_of_mem _ mem)) later]

namespace Export

/-- The category and the name that a path gives have no colon, and the category is not empty. -/
theorem colon_notMem_of_categoryAndName? {path category name : String}
    (h : categoryAndName? path = some (category, name)) :
    ':' ∉ category.toList ∧ ':' ∉ name.toList ∧ category.isEmpty = false := by
  rw [categoryAndName?_eq_place?, place?_eq_some_iff] at h
  obtain ⟨front, split, placed⟩ := h
  have plain : ∀ segment ∈ front ++ [name], Key.Plain segment := by
    rw [← split]
    exact fun segment mem => Key.plain_of_mem_segments mem
  have inside : ∀ segment ∈ front ++ [name], ∀ c ∈ segment.toList, c ≠ ':' := by
    rintro segment mem c here rfl
    exact absurd ((plain segment mem).2 ':' here) (by decide)
  have before := fun segment mem => inside segment (List.mem_append_left _ mem)
  refine ⟨?_, fun mem => inside name (by simp) ':' mem rfl, ?_⟩
  · intro mem
    rw [placed] at mem
    split at mem
    case isTrue => exact absurd mem (by decide)
    case isFalse =>
        exact @Text.forall_mem_intercalate (fun c => c ≠ ':') '-' (by decide) front before ':' mem
          rfl
  · rw [placed]
    split
    case isTrue => rfl
    case isFalse some_front =>
        rw [Bool.eq_false_iff, ne_eq,
          isEmpty_intercalate_iff fun segment mem => plain segment (List.mem_append_left _ mem)]
        exact some_front

theorem joinPath_of_categoryAndName? {path category name : String}
    (h : categoryAndName? path = some (category, name)) :
    Key.joinPath category name = category ++ "-" ++ name := by
  have occupied := (colon_notMem_of_categoryAndName? h).2.2
  rw [Key.joinPath, if_neg (by simp [occupied])]

end Export

/-- The names of the variables of the gradients, after a mark. -/
def Model.gradientNames (mark : String) (model : Model) : List String :=
  model.gradientEntries.map fun entry => mark ++ entry.category ++ "-" ++ entry.name

/-- The name of the variable that a line gives a value: what stands in front of the first colon,
without the indentation. -/
def variableName (line : String) : String :=
  String.ofList ((line.toList.dropWhile fun c => c = ' ').takeWhile fun c => c ≠ ':')

/-- The name of a variable is read off its line. -/
theorem variableName_line {indent name : String} (blank : ∀ c ∈ indent.toList, c = ' ')
    (start : name.toList.head? ≠ some ' ') (nonempty : name.toList ≠ [])
    (colon : ':' ∉ name.toList) (value : String) :
    variableName (indent ++ name ++ ": " ++ value) = name := by
  obtain ⟨first, rest, spelled⟩ := List.exists_cons_of_ne_nil nonempty
  have visible : first ≠ ' ' := by
    rintro rfl
    rw [spelled] at start
    exact start rfl
  have dropped : (indent ++ name ++ ": " ++ value).toList.dropWhile (fun c => c = ' ') =
      name.toList ++ ':' :: ' ' :: value.toList := by
    simp only [String.toList_append, List.append_assoc]
    rw [List.dropWhile_append_of_pos (by simpa using blank), spelled, List.cons_append,
      List.dropWhile_cons_of_neg (by simpa using visible)]
    rfl
  rw [variableName, dropped, Key.takeWhile_append_of_startsOutside, String.ofList_toList]
  · intro c mem
    have apart : c ≠ ':' := fun same => colon (same ▸ mem)
    simpa using apart
  · intro c first
    cases first
    rfl

namespace Export

section Model

variable {model : Model} {nodes : List (String × Json)}
  (given : model.gradients = some (gradients nodes))

include given

/-- A gradient of a model stands where its own category and name lead. -/
theorem categoryAndName?_of_mem_gradientEntries {entry : GradientEntry}
    (mem : entry ∈ model.gradientEntries) :
    categoryAndName? (Key.joinPath entry.category entry.name) =
      some (entry.category, entry.name) := by
  obtain ⟨category, first, second, same⟩ := Model.mem_gradientEntries mem
  rw [given, Option.getD_some] at first
  have stored := (storedCategories_gradients nodes).each category first
  exact same ▸ (stored.2.each _ second).2

theorem nodup_places :
    (model.gradientEntries.map fun entry => (entry.category, entry.name)).Nodup := by
  have stored := storedCategories_gradients nodes
  have pairs : (model.gradientEntries.map fun entry => (entry.category, entry.name)) =
      (gradients nodes).flatMap fun category =>
        category.2.map fun entry => (category.1, entry.1) := by
    rw [Model.gradientEntries, given, Option.getD_some, List.map_flatMap]
    simp only [List.map_map]
    rfl
  rw [pairs]
  exact Entries.nodup_nested
    ⟨stored.distinct, fun category mem => (stored.each category mem).2.distinct⟩

/-- The variables of the gradients have distinct names. -/
theorem nodup_gradientNames (mark : String) : (model.gradientNames mark).Nodup := by
  have places := nodup_places given
  rw [List.Nodup, List.pairwise_map] at places
  rw [Model.gradientNames, List.Nodup, List.pairwise_map]
  refine places.imp_of_mem fun {first second} here there differ same => differ ?_
  have own := categoryAndName?_of_mem_gradientEntries given here
  have other := categoryAndName?_of_mem_gradientEntries given there
  have joined : Key.joinPath first.category first.name =
      Key.joinPath second.category second.name := by
    rw [joinPath_of_categoryAndName? own, joinPath_of_categoryAndName? other]
    simpa [String.append_assoc] using same
  rw [joined, other] at own
  exact (Option.some.inj own).symm

/-- Each line of a gradient gives a value to the variable that is named after the gradient. -/
theorem map_variableName {indent mark : String} (blank : ∀ c ∈ indent.toList, c = ' ')
    (start : mark.toList.head? ≠ some ' ') (nonempty : mark.toList ≠ [])
    (colon : ':' ∉ mark.toList) {lines : List String}
    (h : (model.gradientEntries.mapM fun entry => do
      let drawn ← Css.gradient entry.gradient
      .ok (indent ++ mark ++ entry.category ++ "-" ++ entry.name ++ ": " ++ drawn ++ ";")) =
        .ok lines) : lines.map variableName = model.gradientNames mark := by
  refine map_of_mapM_eq_ok ?_ h
  intro entry mem line written
  obtain ⟨before, after, _⟩ :=
    colon_notMem_of_categoryAndName? (categoryAndName?_of_mem_gradientEntries given mem)
  have named : ∀ value, variableName (indent ++ (mark ++ entry.category ++ "-" ++ entry.name) ++
      ": " ++ value) = mark ++ entry.category ++ "-" ++ entry.name := variableName_line blank
    (by rwa [String.toList_append, String.toList_append, String.toList_append,
      List.append_assoc, List.append_assoc, List.head?_append_of_ne_nil _ nonempty])
    (by simp [nonempty])
    (by simp [colon, before, after])
  cases drawn : Css.gradient entry.gradient with
  | error fault =>
      rw [drawn] at written
      cases written
  | ok value =>
      rw [drawn] at written
      cases written
      rw [← named (value ++ ";")]
      simp [String.append_assoc]

end Model

/-- A gradient section in full. A category and a name have the last gradient of a visit that goes
depth first through the groups whose names lead there by their segments, no category is empty,
and the stops of a gradient are those that its node lists, in their order. The variables that are
written for the gradients are named after their categories and names, and have distinct names. -/
theorem gradients_placed_and_named (nodes : List (String × Json)) :
    ReadsGradients nodes (gradients nodes) ∧
    (∀ node token, Node.ofJson node = .gradient token →
      ∃ members record items, node = .object members ∧
        Entries.get? "value" members = some (.object record) ∧
        Entries.get? "stops" record = some (.array items) ∧
        List.Forall₂ (fun item stop => Shape.record GradientStop.check item = .ok stop)
          items token.stops) ∧
    ∀ model : Model, model.gradients = some (gradients nodes) →
      (model.gradientNames "--gradient-").Nodup ∧ (model.gradientNames "$gradient-").Nodup ∧
      (∀ lines, CssVariables.gradientVariables model = .ok lines →
        lines.map variableName = model.gradientNames "--gradient-") ∧
      ∀ lines, Scss.gradientVariables model = .ok lines →
        lines.map variableName = model.gradientNames "$gradient-" := by
  refine ⟨gradients_reads nodes, fun node token => forall₂_stops_of_ofJson_gradient, ?_⟩
  intro model given
  refine ⟨nodup_gradientNames given _, nodup_gradientNames given _, ?_, ?_⟩
  · intro lines written
    have blank : ∀ c ∈ "  ".toList, c = ' ' := by simp
    exact map_variableName given blank (by decide) (by decide) (by decide) written
  · intro lines written
    have blank : ∀ c ∈ "".toList, c = ' ' := by simp
    exact map_variableName given blank (by decide) (by decide) (by decide) written

/-- A gradient leaf of a type, from black to white. -/
def leafOfKind (kind : String) : Json :=
  leafNode "custom-gradient" (.object [("gradientType", .string kind),
    ("rotation", .number (.integer 90)), ("stops", .array [
      .object [("position", .number (.integer 0)), ("color", .string "#000")],
      .object [("position", .number (.integer 1)), ("color", .string "#fff")]])])

/-- Gradients whose names are cut differently and lead to the same places. -/
def crossedGradients : List (String × Json) := [
  ("sun-rise", .object [("Warm", leafOfKind "linear"), ("cold", leafOfKind "linear")]),
  ("dusk", leafOfKind "linear"),
  ("sun", .object [("riseWarm", leafOfKind "radial"), ("set", leafNode "color" (.string "#f00"))]),
  ("default", .object [("deep", .object [("--", leafOfKind "linear")]),
    ("dusk", leafOfKind "conic")]),
  ("--", leafOfKind "linear")]

/-- A model of these gradients alone. -/
def crossedModel : Model := ⟨.nil, [], some (gradients crossedGradients)⟩

theorem gradients_placed_and_named_crossedGradients :
    (gradients crossedGradients).map (fun category =>
      (category.1, category.2.map fun entry => (entry.1, entry.2.kind))) =
        [("sun-rise", [("warm", "radial"), ("cold", "linear")]),
          ("default", [("dusk", "conic"), ("deep", "linear")])] ∧
    ReadsGradients crossedGradients (gradients crossedGradients) ∧
    (∃ token members record items, Node.ofJson (leafOfKind "linear") = .gradient token ∧
      leafOfKind "linear" = .object members ∧
      Entries.get? "value" members = some (.object record) ∧
      Entries.get? "stops" record = some (.array items) ∧ token.stops.length = 2 ∧
      List.Forall₂ (fun item stop => Shape.record GradientStop.check item = .ok stop)
        items token.stops) ∧
    (∃ lines, CssVariables.gradientVariables crossedModel = .ok lines ∧
      lines.map variableName = ["--gradient-sun-rise-warm", "--gradient-sun-rise-cold",
        "--gradient-default-dusk", "--gradient-default-deep"]) ∧
    ∃ lines, Scss.gradientVariables crossedModel = .ok lines ∧
      lines.map variableName = ["$gradient-sun-rise-warm", "$gradient-sun-rise-cold",
        "$gradient-default-dusk", "$gradient-default-deep"] := by
  obtain ⟨reads, stops, written⟩ := gradients_placed_and_named crossedGradients
  obtain ⟨_, _, css, scss⟩ := written crossedModel rfl
  have leaf : Node.ofJson (leafOfKind "linear") =
      .gradient ⟨"linear", .integer 90, [⟨.integer 0, "#000"⟩, ⟨.integer 1, "#fff"⟩]⟩ := rfl
  obtain ⟨members, record, items, object, value, list, each⟩ := stops _ _ leaf
  have cssLines : CssVariables.gradientVariables crossedModel = .ok [
      "  --gradient-sun-rise-warm: radial-gradient(circle, #000 0%, #fff 100%);",
      "  --gradient-sun-rise-cold: linear-gradient(90deg, #000 0%, #fff 100%);",
      "  --gradient-default-dusk: conic-gradient(from 90deg, #000 0%, #fff 100%);",
      "  --gradient-default-deep: linear-gradient(90deg, #000 0%, #fff 100%);"] := by
    decide +kernel
  have scssLines : Scss.gradientVariables crossedModel = .ok [
      "$gradient-sun-rise-warm: radial-gradient(circle, #000 0%, #fff 100%);",
      "$gradient-sun-rise-cold: linear-gradient(90deg, #000 0%, #fff 100%);",
      "$gradient-default-dusk: conic-gradient(from 90deg, #000 0%, #fff 100%);",
      "$gradient-default-deep: linear-gradient(90deg, #000 0%, #fff 100%);"] := by
    decide +kernel
  refine ⟨by decide +kernel, reads,
    ⟨_, members, record, items, leaf, object, value, list, rfl, each⟩, ⟨_, cssLines, ?_⟩,
    ⟨_, scssLines, ?_⟩⟩
  · rw [css _ cssLines]
    decide +kernel
  · rw [scss _ scssLines]
    decide +kernel

end Export

end DesignTokens
