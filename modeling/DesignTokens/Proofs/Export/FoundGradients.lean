import DesignTokens.Export.Gradients
import DesignTokens.Proofs.Entries.Collect
import DesignTokens.Proofs.Export.Nodes
import DesignTokens.Proofs.Key.Segments
import DesignTokens.Proofs.StoredTokens

/-!
# The gradients of a gradient section

Whatever a gradient section holds, its categories have distinct names, each of them has a
gradient, and the gradients of a category are stored gradients of distinct names. The
category and the name of a gradient, joined again, lead to the same category and name.
-/

namespace DesignTokens.Export

/-- The last segment of a path is the name, and the others make the category. -/
theorem categoryAndName?_of_segments {path name : String} {front : List String}
    (h : Key.segments path = front ++ [name]) :
    categoryAndName? path =
      some (if ("-".intercalate front).isEmpty then defaultCategory else "-".intercalate front,
        name) := by
  simp only [categoryAndName?, h, List.getLast?_concat, List.dropLast_concat]

/-- A category is in kebab form and has a segment, also the one that stands for none. -/
theorem category_of_plain {front : List String}
    (plain : ∀ segment ∈ front, Key.Plain segment) {category : String}
    (h : category =
      if ("-".intercalate front).isEmpty then defaultCategory else "-".intercalate front) :
    Key.kebab category = category ∧ category.isEmpty = false := by
  cases vacant : ("-".intercalate front).isEmpty with
  | true =>
      rw [vacant, if_pos rfl] at h
      subst h
      decide
  | false =>
      rw [vacant] at h
      have same : category = "-".intercalate front := h
      subst same
      exact ⟨Key.kebab_intercalate plain, vacant⟩

/-- The names that a path gives lead back to themselves. -/
theorem categoryAndName?_joinPath {path category name : String}
    (h : categoryAndName? path = some (category, name)) :
    categoryAndName? (Key.joinPath category name) = some (category, name) := by
  rcases List.eq_nil_or_concat (Key.segments path) with none_left | ⟨front, last, split⟩
  · simp [categoryAndName?, none_left] at h
  · rw [List.concat_eq_append] at split
    have plain : ∀ segment ∈ front ++ [last], Key.Plain segment := by
      rw [← split]
      intro segment mem
      exact Key.plain_of_mem_segments mem
    rw [categoryAndName?_of_segments split, Option.some.injEq, Prod.mk.injEq] at h
    obtain ⟨placed, rfl⟩ := h
    have own := Key.segments_of_plain (plain last (by simp))
    obtain ⟨kebab, occupied⟩ :=
      category_of_plain (fun segment mem => plain segment (List.mem_append_left _ mem)) placed.symm
    have joined : Key.segments (Key.joinPath category last) = Key.segments category ++ [last] := by
      rw [Key.segments_joinPath, own]
    rw [categoryAndName?_of_segments joined]
    have back : "-".intercalate (Key.segments category) = category := kebab
    rw [back, occupied]
    rfl

theorem stored_of_ofJson_gradient {value : Json} {gradient : Gradient}
    (h : Node.ofJson value = .gradient gradient) : gradient.Stored := by
  have checked := Node.checked_ofJson value
  rw [h] at checked
  obtain ⟨record, accepted⟩ := checked
  exact Gradient.stored_of_checkPayload accepted

/-- A visited gradient is stored. -/
theorem stored_of_mem_gradients :
    (∀ value path, ∀ placed ∈ gradientsAt path value, placed.gradient.Stored) ∧
      ∀ nodes parent, ∀ placed ∈ gradientsBelow parent nodes, placed.gradient.Stored := by
  apply visitInduction
  case group =>
    intro path members h ih placed mem
    have h : Node.ofMembers members = .group members := h
    rw [gradientsAt, h] at mem
    exact ih placed mem
  case other =>
    intro path value h placed mem
    cases value with
    | object members =>
        cases kind : Node.ofMembers members with
        | group children => exact absurd kind (h children)
        | gradient token =>
            simp only [gradientsAt, kind, List.mem_singleton] at mem
            subst mem
            have read : Node.ofJson (.object members) = .gradient token := kind
            exact stored_of_ofJson_gradient read
        | _ => simp [gradientsAt, kind] at mem
    | _ => simp [gradientsAt] at mem
  case nil => simp [gradientsBelow]
  case cons =>
    intro parent name value rest own others placed mem
    rw [gradientsBelow, List.mem_append] at mem
    exact mem.elim (own placed) (others placed)

/-- Stored gradients of distinct names, each of which stands where the names lead. -/
def StoredCategory (category : String) (entries : Entries Gradient) : Prop :=
  entries.Collected fun name gradient =>
    gradient.Stored ∧
      categoryAndName? (Key.joinPath category name) = some (category, name)

/-- Categories of distinct names, each with at least one gradient. -/
def StoredCategories (categories : Entries (Entries Gradient)) : Prop :=
  categories.Collected fun category entries => entries ≠ [] ∧ StoredCategory category entries

theorem storedCategories_putGradient {categories : Entries (Entries Gradient)}
    (stored : StoredCategories categories) {placed : PlacedGradient}
    (own : placed.gradient.Stored) : StoredCategories (putGradient categories placed) := by
  unfold putGradient
  split
  case h_1 => exact stored
  case h_2 category name found =>
      have leads := categoryAndName?_joinPath found
      apply stored.update
      · exact ⟨Entries.put_ne_nil _ _ _, Entries.collected_nil.put ⟨own, leads⟩⟩
      · intro entries known
        exact ⟨Entries.put_ne_nil _ _ _, known.2.put ⟨own, leads⟩⟩

theorem storedCategories_gradients (nodes : List (String × Json)) :
    StoredCategories (gradients nodes) := by
  have stored : ∀ (visited : List PlacedGradient) (found : Entries (Entries Gradient)),
      (∀ placed ∈ visited, placed.gradient.Stored) → StoredCategories found →
      StoredCategories (visited.foldl putGradient found) := by
    intro visited
    induction visited with
    | nil => exact fun found _ h => h
    | cons placed rest ih =>
        intro found own h
        apply ih
        · intro other mem
          exact own other (List.mem_cons_of_mem _ mem)
        · exact storedCategories_putGradient h (own placed List.mem_cons_self)
  exact stored _ [] (stored_of_mem_gradients.2 nodes "") Entries.collected_nil

end DesignTokens.Export
