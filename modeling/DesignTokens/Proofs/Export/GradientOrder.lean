import DesignTokens.Proofs.Entries.Groups
import DesignTokens.Proofs.Export.FoundGradients
import DesignTokens.Proofs.Tree.Slots
import Mathlib.Data.List.Forall2

/-!
# The order of gradients

A gradient section is visited depth first. Of each gradient the visit keeps the names that lead to
it, and the segments of these names, one name after the other, are all that decides on its
category and its name. The two are found again in the name of a variable, so no two gradients
share a variable.

## Implementation notes

The reader joins the names that lead to a gradient and cuts the joined text into segments again. The
listing here keeps the names apart instead, and is shown to be the same visit.
-/

namespace DesignTokens.Export

/-- A node that is reached from others through groups, by the names that lead to it. -/
inductive Reached : List (String × Json) → List String → Json → Prop
  | here {nodes name value} (mem : (name, value) ∈ nodes) : Reached nodes [name] value
  | within {nodes name value children address node} (mem : (name, value) ∈ nodes)
      (group : Node.ofJson value = .group children) (inside : Reached children address node) :
      Reached nodes (name :: address) node

mutual

/-- The gradients at a node and below it, depth first, each with the names that lead to it from
the node. -/
def gradientLeavesAt : Json → List (List String × Gradient)
  | .object members =>
    match Node.ofMembers members with
    | .gradient token => [([], token)]
    | .group _ => gradientLeaves members
    | _ => []
  | _ => []

/-- The gradients of nodes, depth first, each with the names that lead to it. -/
def gradientLeaves : List (String × Json) → List (List String × Gradient)
  | [] => []
  | (name, value) :: rest => (gradientLeavesAt value).map (under name) ++ gradientLeaves rest

end

theorem gradientLeavesAt_of_group {members : List (String × Json)}
    (h : Node.ofJson (.object members) = .group members) :
    gradientLeavesAt (.object members) = gradientLeaves members := by
  have h : Node.ofMembers members = .group members := h
  simp [gradientLeavesAt, h]

/-- A node that is no group is listed if it is a gradient itself. -/
theorem mem_gradientLeavesAt_of_no_group {value : Json}
    (h : ∀ members, Node.ofJson value ≠ .group members) {address : List String}
    {token : Gradient} :
    (address, token) ∈ gradientLeavesAt value ↔
      address = [] ∧ Node.ofJson value = .gradient token := by
  cases value with
  | object members =>
      change _ ↔ _ ∧ Node.ofMembers members = .gradient token
      cases kind : Node.ofMembers members with
      | group children => exact absurd kind (h children)
      | gradient found => simp [gradientLeavesAt, kind, eq_comm]
      | _ => simp [gradientLeavesAt, kind]
  | _ => simp [gradientLeavesAt, Node.ofJson]

theorem not_reached_nil {address : List String} {node : Json} : ¬Reached [] address node := by
  intro reached
  cases reached with
  | here mem => exact List.not_mem_nil mem
  | within mem => exact List.not_mem_nil mem

/-- What is reached from nodes is the first of them, is reached within it, or is reached from the
others. -/
theorem reached_cons_iff {name : String} {value node : Json} {rest : List (String × Json)}
    {address : List String} :
    Reached ((name, value) :: rest) address node ↔
      (address = [name] ∧ node = value) ∨
      (∃ children inner, address = name :: inner ∧ Node.ofJson value = .group children ∧
        Reached children inner node) ∨
      Reached rest address node := by
  constructor
  · intro reached
    cases reached with
    | here mem =>
        rcases List.mem_cons.mp mem with same | mem
        · cases same
          exact Or.inl ⟨rfl, rfl⟩
        · exact Or.inr (Or.inr (.here mem))
    | within mem group inside =>
        rcases List.mem_cons.mp mem with same | mem
        · cases same
          exact Or.inr (Or.inl ⟨_, _, rfl, group, inside⟩)
        · exact Or.inr (Or.inr (.within mem group inside))
  · rintro (⟨rfl, rfl⟩ | ⟨children, inner, rfl, group, inside⟩ | later)
    · exact .here List.mem_cons_self
    · exact .within List.mem_cons_self group inside
    · cases later with
      | here mem => exact .here (List.mem_cons_of_mem _ mem)
      | within mem group inside => exact .within (List.mem_cons_of_mem _ mem) group inside

/-- The gradients that are listed are those that are reached through groups. -/
theorem mem_gradientLeaves_iff :
    (∀ value (_ : String) address token, (address, token) ∈ gradientLeavesAt value ↔
      (address = [] ∧ Node.ofJson value = .gradient token) ∨
        ∃ children, Node.ofJson value = .group children ∧
          ∃ node, Reached children address node ∧ Node.ofJson node = .gradient token) ∧
    ∀ nodes (_ : String) address token, (address, token) ∈ gradientLeaves nodes ↔
      ∃ node, Reached nodes address node ∧ Node.ofJson node = .gradient token := by
  apply visitInduction
  case group =>
    intro _ members h ih address token
    rw [gradientLeavesAt_of_group h, ih]
    simp [h]
  case other =>
    intro _ value h address token
    rw [mem_gradientLeavesAt_of_no_group h]
    simp [h]
  case nil => simp [gradientLeaves, not_reached_nil]
  case cons =>
    intro _ name value rest own others address token
    simp only [gradientLeaves, List.mem_append, others, List.mem_map, reached_cons_iff]
    constructor
    · rintro (⟨⟨inner, found⟩, listed, same⟩ | ⟨node, reached, leaf⟩)
      · cases same
        rcases (own inner found).mp listed with ⟨rfl, leaf⟩ | ⟨children, group, node, inside, leaf⟩
        · exact ⟨value, Or.inl ⟨rfl, rfl⟩, leaf⟩
        · exact ⟨node, Or.inr (Or.inl ⟨children, inner, rfl, group, inside⟩), leaf⟩
      · exact ⟨node, Or.inr (Or.inr reached), leaf⟩
    · rintro ⟨node, ⟨rfl, rfl⟩ | ⟨children, inner, rfl, group, inside⟩ | reached, leaf⟩
      · exact Or.inl ⟨([], token), (own [] token).mpr (Or.inl ⟨rfl, leaf⟩), rfl⟩
      · exact Or.inl ⟨(inner, token),
          (own inner token).mpr (Or.inr ⟨children, group, node, inside, leaf⟩), rfl⟩
      · exact Or.inr ⟨node, reached, leaf⟩

/-- The visit joins the names that lead to a gradient. -/
theorem gradients_eq_map_leaves :
    (∀ value path, gradientsAt path value = (gradientLeavesAt value).map fun leaf =>
      ⟨leaf.1.foldl Key.joinPath path, leaf.2⟩) ∧
    ∀ nodes parent, gradientsBelow parent nodes = (gradientLeaves nodes).map fun leaf =>
      ⟨leaf.1.foldl Key.joinPath parent, leaf.2⟩ := by
  apply visitInduction
  case group =>
    intro path members h ih
    have kind : Node.ofMembers members = .group members := h
    rw [gradientLeavesAt_of_group h, ← ih]
    simp [gradientsAt, kind]
  case other =>
    intro path value h
    cases value with
    | object members =>
        cases kind : Node.ofMembers members with
        | group children => exact absurd kind (h children)
        | _ => simp [gradientsAt, gradientLeavesAt, kind]
    | _ => simp [gradientsAt, gradientLeavesAt]
  case nil => simp [gradientsBelow, gradientLeaves]
  case cons =>
    intro parent name value rest own others
    rw [gradientsBelow, gradientLeaves, own, others, List.map_append, List.map_map]
    rfl

/-- The category and the name that segments give. -/
def place? (segments : List String) : Option (String × String) :=
  segments.getLast?.map fun name =>
    (if segments.dropLast = [] then defaultCategory else "-".intercalate segments.dropLast, name)

theorem place?_eq_some_iff {segments : List String} {category name : String} :
    place? segments = some (category, name) ↔
      ∃ front, segments = front ++ [name] ∧
        category = if front = [] then defaultCategory else "-".intercalate front := by
  rw [place?, Option.map_eq_some_iff]
  constructor
  · rintro ⟨last, found, same⟩
    obtain ⟨rfl, rfl⟩ := Prod.mk.inj same
    exact ⟨segments.dropLast, (List.dropLast_append_getLast? _ found).symm, rfl⟩
  · rintro ⟨front, rfl, rfl⟩
    exact ⟨name, List.getLast?_concat .., by rw [List.dropLast_concat]⟩

/-- Segments joined with hyphens are empty only if there are none. -/
theorem isEmpty_intercalate_iff {front : List String}
    (plain : ∀ segment ∈ front, Key.Plain segment) :
    ("-".intercalate front).isEmpty = true ↔ front = [] := by
  constructor
  · intro vacant
    calc
      front = Key.segments ("-".intercalate front) :=
        (Key.segments_intercalate '-' (by decide) plain).symm
      _ = [] := by rw [String.isEmpty_iff.mp vacant, Key.segments_empty]
  · rintro rfl
    rfl

/-- Only its segments decide on the place that a path leads to. -/
theorem categoryAndName?_eq_place? (path : String) :
    categoryAndName? path = place? (Key.segments path) := by
  rcases List.eq_nil_or_concat (Key.segments path) with none_left | ⟨front, last, split⟩
  · simp [categoryAndName?, place?, none_left]
  · rw [List.concat_eq_append] at split
    have plain : ∀ segment ∈ front, Key.Plain segment := by
      intro segment mem
      apply Key.plain_of_mem_segments
      rw [split]
      exact List.mem_append_left _ mem
    rw [categoryAndName?_of_segments split, split, eq_comm, place?_eq_some_iff]
    refine ⟨front, rfl, ?_⟩
    simp only [isEmpty_intercalate_iff plain]

/-- The gradient that is put at its place. -/
def gradientPart? (leaf : List String × Gradient) : Option (Part Gradient) :=
  (place? (leaf.1.flatMap Key.segments)).map fun place => ⟨place.1, [(place.2, leaf.2)]⟩

/-- The gradients of a section in the order of the visit, each at its place. -/
def placedGradients (nodes : List (String × Json)) : List (Grouped Gradient) :=
  ((gradientLeaves nodes).filterMap gradientPart?).flatMap Part.values

theorem gradients_eq_groupParts (nodes : List (String × Json)) :
    gradients nodes = Entries.groupParts ((gradientLeaves nodes).filterMap gradientPart?) := by
  rw [gradients, gradients_eq_map_leaves.2, List.foldl_map, Entries.groupParts,
    List.foldl_filterMap]
  congr 1
  funext found leaf
  rw [putGradient, categoryAndName?_eq_place?, Key.segments_foldl_joinPath, Key.segments_empty,
    List.nil_append, gradientPart?]
  cases place? (leaf.1.flatMap Key.segments) <;> rfl

theorem mem_placedGradients_iff {nodes : List (String × Json)} {category name : String}
    {token : Gradient} :
    ⟨category, name, token⟩ ∈ placedGradients nodes ↔
      ∃ address node, Reached nodes address node ∧ Node.ofJson node = .gradient token ∧
        place? (address.flatMap Key.segments) = some (category, name) := by
  simp only [placedGradients, List.mem_flatMap, List.mem_filterMap, gradientPart?,
    Option.map_eq_some_iff]
  constructor
  · rintro ⟨part, ⟨⟨address, found⟩, listed, ⟨place, placed, rfl⟩⟩, inside⟩
    obtain ⟨pair, mem, same⟩ := List.mem_map.mp inside
    cases List.mem_singleton.mp mem
    cases same
    obtain ⟨node, reached, leaf⟩ := (mem_gradientLeaves_iff.2 nodes "" address _).mp listed
    exact ⟨address, node, reached, leaf, placed⟩
  · rintro ⟨address, node, reached, leaf, placed⟩
    have listed := (mem_gradientLeaves_iff.2 nodes "" address token).mpr ⟨node, reached, leaf⟩
    exact ⟨_, ⟨_, listed, _, placed, rfl⟩, List.mem_singleton.mpr rfl⟩

/-- The gradient of a category and a name. -/
def gradientAt? (categories : Entries (Entries Gradient)) (category name : String) :
    Option Gradient :=
  (categories.get? category).bind (Entries.get? name)

/-- A gradient section and the gradients that are read from it. -/
structure ReadsGradients (nodes : List (String × Json))
    (categories : Entries (Entries Gradient)) : Prop where
  /-- A gradient is the last one of the visit that is put at its place. -/
  last : ∀ category name token, gradientAt? categories category name = some token ↔
    lastGrouped? category name (placedGradients nodes) = some token
  /-- There is one if a gradient is reached through groups by names whose segments end with its
  name and have its category in front. -/
  occurs : ∀ category name, (∃ token, gradientAt? categories category name = some token) ↔
    ∃ address node token front, Reached nodes address node ∧
      Node.ofJson node = .gradient token ∧
      address.flatMap Key.segments = front ++ [name] ∧
      category = if front = [] then defaultCategory else "-".intercalate front
  /-- No category is empty. -/
  occupied : ∀ category ∈ categories, category.2 ≠ []
  /-- The categories stand in the order in which they were first met. -/
  categories_in_order :
    categories.names = ((placedGradients nodes).map Grouped.group).eraseDups
  /-- The gradients of a category stand in the order in which their names were first met. -/
  names_in_order : ∀ category entries, categories.get? category = some entries →
    entries.names = ((pairsOf category (placedGradients nodes)).map Prod.fst).eraseDups

/-- Each gradient makes one part. -/
theorem map_group_gradientParts (leaves : List (List String × Gradient)) :
    (leaves.filterMap gradientPart?).map Part.group =
      ((leaves.filterMap gradientPart?).flatMap Part.values).map Grouped.group := by
  induction leaves with
  | nil => rfl
  | cons leaf rest ih =>
      rw [List.filterMap_cons, gradientPart?]
      cases place? (leaf.1.flatMap Key.segments) with
      | none => exact ih
      | some place => simp [Part.values, ih]

theorem gradients_reads (nodes : List (String × Json)) :
    ReadsGradients nodes (gradients nodes) := by
  have last : ∀ category name token,
      gradientAt? (gradients nodes) category name = some token ↔
        lastGrouped? category name (placedGradients nodes) = some token := by
    intro category name token
    rw [gradientAt?, gradients_eq_groupParts, Entries.bind_get?_groupParts]
    rfl
  constructor
  · exact last
  · intro category name
    simp only [last]
    rw [exists_lastGrouped?_iff]
    simp only [mem_placedGradients_iff, place?_eq_some_iff]
    constructor
    · rintro ⟨token, address, node, reached, leaf, front, placed⟩
      exact ⟨address, node, token, front, reached, leaf, placed⟩
    · rintro ⟨address, node, token, front, reached, leaf, placed⟩
      exact ⟨token, address, node, reached, leaf, front, placed⟩
  · intro category mem
    exact ((storedCategories_gradients nodes).each category mem).1
  · rw [gradients_eq_groupParts, Entries.names_groupParts, map_group_gradientParts]
    rfl
  · intro category entries found
    rw [gradients_eq_groupParts, Entries.get?_groupParts, Option.ite_none_right_eq_some] at found
    rw [← Option.some.inj found.2, Entries.names_ofPairs]
    rfl

section Stops

theorem exists_check_of_ofLeaf_gradient {tag : String} {payload : Json} {token : Gradient}
    (h : Node.ofLeaf tag payload = .gradient token) :
    ∃ record, payload = .object record ∧ Gradient.checkPayload record = .ok token := by
  unfold Node.ofLeaf at h
  split at h
  case isTrue =>
      split at h <;> cases h
  case isFalse =>
      split at h
      case isTrue =>
          split at h
          case h_1 =>
              split at h <;> cases h
          case h_2 => cases h
      case isFalse =>
          split at h
          case isTrue =>
              split at h
              case h_1 record =>
                  split at h
                  case h_1 accepted =>
                      cases h
                      exact ⟨record, rfl, accepted⟩
                  case h_2 => cases h
              case h_2 => cases h
          case isFalse => cases h

theorem forall₂_of_itemsFrom_eq_ok {α β : Type} {position : Nat} {check : β → Shape.Checked α}
    {list : List β} {items : List α} (h : Shape.itemsFrom position check list = .ok items) :
    List.Forall₂ (fun value item => check value = .ok item) list items := by
  induction list generalizing position items with
  | nil =>
      cases h
      exact .nil
  | cons value rest ih =>
      rw [Shape.itemsFrom] at h
      obtain ⟨_, others, first, later, rfl⟩ := Shape.exists_of_both_eq_ok h
      obtain ⟨own, accepted, rfl⟩ := Shape.exists_of_map_eq_ok first
      exact .cons (Shape.eq_ok_of_below_eq_ok accepted) (ih later)

/-- A field without other names is accepted as the value of its name. -/
theorem exists_get?_of_field_eq_ok {α : Type} {name : String} {check : Json → Shape.Checked α}
    {record : Entries Json} {result : α} (h : Shape.field name [] check record = .ok result) :
    ∃ value, record.get? name = some value ∧ check value = .ok result := by
  unfold Shape.field at h
  split at h
  case h_1 value given =>
      refine ⟨value, ?_, Shape.eq_ok_of_below_eq_ok h⟩
      simpa [Shape.given?] using given
  case h_2 => cases Shape.eq_ok_of_below_eq_ok h

/-- A gradient has the stops that its node lists, one for each item and in their order. -/
theorem forall₂_stops_of_ofJson_gradient {node : Json} {token : Gradient}
    (h : Node.ofJson node = .gradient token) :
    ∃ members record items, node = .object members ∧
      Entries.get? "value" members = some (.object record) ∧
      Entries.get? "stops" record = some (.array items) ∧
      List.Forall₂ (fun item stop => Shape.record GradientStop.check item = .ok stop)
        items token.stops := by
  cases node with
  | object members =>
      have leaf : Node.ofMembers members = .gradient token := h
      unfold Node.ofMembers at leaf
      split at leaf
      case h_1 tag payload tagged =>
          obtain ⟨record, rfl, accepted⟩ := exists_check_of_ofLeaf_gradient leaf
          obtain ⟨_, stops, two, listed, rfl⟩ := Shape.exists_of_both_eq_ok accepted
          obtain ⟨_, rotation, one, _, rfl⟩ := Shape.exists_of_both_eq_ok two
          obtain ⟨kind, _, rfl⟩ := Shape.exists_of_map_eq_ok one
          have given : Entries.get? "value" members = some (.object record) := by
            unfold Node.tagged? at tagged
            split at tagged
            case h_1 given =>
                cases tagged
                exact given
            case h_2 => cases tagged
          obtain ⟨list, stopped, listed⟩ := exists_get?_of_field_eq_ok listed
          cases list with
          | array items =>
              exact ⟨members, record, items, rfl, given, stopped,
                forall₂_of_itemsFrom_eq_ok listed⟩
          | _ => cases listed
      case h_2 => cases leaf
  | _ => cases h

end Stops

end DesignTokens.Export
