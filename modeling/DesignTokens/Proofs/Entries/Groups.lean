import DesignTokens.Proofs.Entries.Collect

/-!
# Groups of entries

Values that belong to groups are collected part by part. A part opens its group unless
the group is open already, and puts its values there. So the groups stand in the order in
which they were opened, the names of a group in the order in which they were first given,
and a name of a group has the value that was given last.
-/

namespace DesignTokens

variable {α β : Type}

theorem eraseDups_concat (names : List String) (name : String) :
    (names ++ [name]).eraseDups =
      if name ∈ names then names.eraseDups else names.eraseDups ++ [name] := by
  rw [List.eraseDups_append]
  split
  case isTrue known => simp [List.removeAll, known]
  case isFalse fresh => simp [List.removeAll, fresh, List.eraseDups_cons]

/-- A value that belongs to a group, with its name there. -/
structure Grouped (α : Type) where
  group : String
  name : String
  value : α

/-- The named values of a group, in order. -/
def pairsOf (group : String) (values : List (Grouped α)) : List (String × α) :=
  (values.filter fun value => value.group = group).map fun value => (value.name, value.value)

/-- The value that a name of a group is given last. -/
def lastGrouped? (group name : String) (values : List (Grouped α)) : Option α :=
  ((values.filter fun value => value.group = group ∧ value.name = name).getLast?).map
    Grouped.value

theorem lastGrouped?_eq_none_iff {group name : String} {values : List (Grouped α)} :
    lastGrouped? group name values = none ↔ ∀ value, ⟨group, name, value⟩ ∉ values := by
  rw [lastGrouped?, Option.map_eq_none_iff, List.getLast?_eq_none_iff, List.filter_eq_nil_iff]
  constructor
  · intro apart value mem
    exact apart _ mem (by simp)
  · rintro absent ⟨other, label, value⟩ mem same
    obtain ⟨rfl, rfl⟩ : other = group ∧ label = name := by simpa using same
    exact absent value mem

/-- A name of a group has a value if it is given one. -/
theorem exists_lastGrouped?_iff {group name : String} {values : List (Grouped α)} :
    (∃ value, lastGrouped? group name values = some value) ↔
      ∃ value, ⟨group, name, value⟩ ∈ values := by
  have given : ¬lastGrouped? group name values = none ↔ _ := lastGrouped?_eq_none_iff.not
  rwa [← ne_eq, Option.ne_none_iff_exists', not_forall_not] at given

/-- The value of a name of a group is one that it is given. -/
theorem mem_of_lastGrouped?_eq_some {group name : String} {values : List (Grouped α)} {value : α}
    (h : lastGrouped? group name values = some value) : ⟨group, name, value⟩ ∈ values := by
  obtain ⟨⟨_, _, _⟩, last, rfl⟩ := Option.map_eq_some_iff.mp h
  obtain ⟨mem, same⟩ := List.mem_filter.mp (List.mem_of_getLast? last)
  obtain ⟨rfl, rfl⟩ := of_decide_eq_true same
  exact mem

/-- A group without values is a group without names. -/
theorem pairsOf_ne_nil_iff {group : String} {values : List (Grouped α)} :
    pairsOf group values ≠ [] ↔ ∃ value ∈ values, value.group = group := by
  simp [pairsOf]

theorem pairsOf_append (group : String) (first second : List (Grouped α)) :
    pairsOf group (first ++ second) = pairsOf group first ++ pairsOf group second := by
  simp [pairsOf]

/-- A group and values for it. A part without values opens its group all the same. -/
structure Part (α : Type) where
  group : String
  pairs : List (String × α)

/-- The values of a part. -/
def Part.values (part : Part α) : List (Grouped α) :=
  part.pairs.map fun pair => ⟨part.group, pair.1, pair.2⟩

theorem pairsOf_values (group : String) (part : Part α) :
    pairsOf group part.values = if part.group = group then part.pairs else [] := by
  split <;> simp [pairsOf, Part.values, List.filter_map, Function.comp_def, *]

/-- A group that is not opened has no values. -/
theorem pairsOf_eq_nil_of_notMem {group : String} {parts : List (Part α)}
    (closed : group ∉ parts.map Part.group) :
    pairsOf group (parts.flatMap Part.values) = [] := by
  by_contra occupied
  obtain ⟨value, mem, own⟩ := pairsOf_ne_nil_iff.mp occupied
  obtain ⟨part, listed, inside⟩ := List.mem_flatMap.mp mem
  obtain ⟨pair, _, rfl⟩ := List.mem_map.mp inside
  exact closed (List.mem_map.mpr ⟨part, listed, own⟩)

namespace Entries

/-- The names are those of the pairs, in the order of their first appearance. -/
theorem names_ofPairs (pairs : List (String × α)) :
    (ofPairs pairs).names = (pairs.map Prod.fst).eraseDups := by
  induction pairs using List.reverseRecOn with
  | nil => rfl
  | append_singleton pairs pair ih =>
      rw [ofPairs_concat, names_put, List.map_append, List.map_singleton, eraseDups_concat]
      simp only [has_iff_mem_names, ih, List.mem_eraseDups]

theorem ofPairs_append (first second : List (String × α)) :
    ofPairs (first ++ second) = (ofPairs first).putAll second :=
  List.foldl_append

theorem ofPairs_eq_nil_iff {pairs : List (String × α)} : ofPairs pairs = [] ↔ pairs = [] := by
  induction pairs using List.reverseRecOn with
  | nil => simp [ofPairs]
  | append_singleton pairs pair _ => simp [ofPairs_concat, put_ne_nil]

theorem get?_ofPairs_pairsOf (group name : String) (values : List (Grouped α)) :
    (ofPairs (pairsOf group values)).get? name = lastGrouped? group name values := by
  have kept : (values.filter fun value => value.group = group ∧ value.name = name) =
      (values.filter fun value => value.group = group).filter fun value => value.name = name := by
    simp [List.filter_filter, Bool.and_comm]
  rw [get?_ofPairs, pairsOf, List.filter_map, List.getLast?_map, Option.map_map, lastGrouped?,
    kept]
  rfl

/-- Put the values of a part into its group, which is opened for them. -/
def putPart (groups : Entries (Entries α)) (part : Part α) : Entries (Entries α) :=
  groups.update part.group [] fun entries => entries.putAll part.pairs

/-- The groups that parts make, one part after the other. -/
def groupParts (parts : List (Part α)) : Entries (Entries α) :=
  parts.foldl putPart []

theorem groupParts_concat (parts : List (Part α)) (part : Part α) :
    groupParts (parts ++ [part]) = (groupParts parts).putPart part := by
  rw [groupParts, List.foldl_append]
  rfl

theorem nodup_names_groupParts (parts : List (Part α)) : (groupParts parts).names.Nodup := by
  induction parts using List.reverseRecOn with
  | nil => exact List.nodup_nil
  | append_singleton parts part ih =>
      rw [groupParts_concat]
      exact nodup_names_put ih _ _

/-- The groups stand in the order in which they were opened. -/
theorem names_groupParts (parts : List (Part α)) :
    (groupParts parts).names = (parts.map Part.group).eraseDups := by
  induction parts using List.reverseRecOn with
  | nil => rfl
  | append_singleton parts part ih =>
      rw [groupParts_concat, putPart, update, names_put, List.map_append, List.map_singleton,
        eraseDups_concat]
      simp only [has_iff_mem_names, ih, List.mem_eraseDups]

/-- A group that was opened has the values of all its parts. -/
theorem get?_groupParts (group : String) (parts : List (Part α)) :
    (groupParts parts).get? group =
      if group ∈ parts.map Part.group then
        some (ofPairs (pairsOf group (parts.flatMap Part.values)))
      else none := by
  induction parts using List.reverseRecOn with
  | nil => rfl
  | append_singleton parts part ih =>
      rw [groupParts_concat, putPart, update, List.flatMap_append, List.flatMap_singleton,
        pairsOf_append, pairsOf_values]
      by_cases same : part.group = group
      · subst same
        rw [get?_put_self, if_pos rfl, if_pos (by simp), ofPairs_append, ih]
        by_cases opened : part.group ∈ parts.map Part.group
        · rw [if_pos opened]
          rfl
        · rw [if_neg opened, pairsOf_eq_nil_of_notMem opened]
          rfl
      · rw [get?_put_of_ne (Ne.symm same), ih, if_neg same, List.append_nil]
        simp [Ne.symm same]

/-- A name of a group has the value that it is given last. -/
theorem bind_get?_groupParts (group name : String) (parts : List (Part α)) :
    ((groupParts parts).get? group).bind (get? name) =
      lastGrouped? group name (parts.flatMap Part.values) := by
  rw [get?_groupParts, ← get?_ofPairs_pairsOf]
  by_cases opened : group ∈ parts.map Part.group
  · rw [if_pos opened]
    rfl
  · rw [if_neg opened, pairsOf_eq_nil_of_notMem opened]
    rfl

section Distinct

variable {entries : Entries α}

theorem get?_eq_some_of_mem (nodup : entries.names.Nodup) {entry : String × α}
    (mem : entry ∈ entries) : entries.get? entry.1 = some entry.2 := by
  induction entries with
  | nil => exact absurd mem List.not_mem_nil
  | cons first rest ih =>
      rw [names, List.map_cons, List.nodup_cons] at nodup
      rw [get?]
      rcases List.mem_cons.mp mem with rfl | later
      · exact if_pos rfl
      · have apart : first.1 ≠ entry.1 := by
          intro same
          exact nodup.1 (same ▸ List.mem_map_of_mem later)
        rw [if_neg apart]
        exact ih nodup.2 later

/-- A change of values that drops some of them acts on each name alone. -/
theorem get?_filterMap (nodup : entries.names.Nodup) (f : α → Option β) (name : String) :
    get? name (entries.filterMap fun entry => (f entry.2).map fun value => (entry.1, value)) =
      (entries.get? name).bind f := by
  induction entries with
  | nil => rfl
  | cons first rest ih =>
      obtain ⟨key, value⟩ := first
      rw [names, List.map_cons, List.nodup_cons] at nodup
      rw [List.filterMap_cons, get?]
      by_cases same : key = name
      · subst same
        have later : get? key (rest.filterMap fun entry =>
            (f entry.2).map fun value => (entry.1, value)) = none := by
          rw [ih nodup.2, (get?_eq_none_iff ..).mpr nodup.1]
          rfl
        cases changed : f value <;> simp [get?, changed, later]
      · cases changed : f value <;> simp [get?, same, ih nodup.2]

theorem get?_filter (nodup : entries.names.Nodup) (keep : α → Bool) (name : String) :
    get? name (entries.filter fun entry => keep entry.2) = (entries.get? name).filter keep := by
  have dropped : (entries.filter fun entry => keep entry.2) =
      entries.filterMap fun entry =>
        (Option.guard keep entry.2).map fun value => (entry.1, value) := by
    rw [← List.filterMap_eq_filter]
    congr 1
    funext entry
    cases kept : keep entry.2 <;> simp [Option.guard, kept]
  rw [dropped, get?_filterMap nodup]
  cases entries.get? name <;> simp [Option.guard, Option.filter]

theorem names_filter (nodup : entries.names.Nodup) (keep : α → Bool) :
    names (entries.filter fun entry => keep entry.2) =
      entries.names.filter fun name => (entries.get? name).any keep := by
  rw [names, names, List.filter_map]
  congr 1
  apply List.filter_congr
  intro entry mem
  rw [Function.comp_apply, get?_eq_some_of_mem nodup mem, Option.any_some]

end Distinct

end Entries

end DesignTokens
