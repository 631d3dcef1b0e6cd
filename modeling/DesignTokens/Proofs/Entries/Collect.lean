import DesignTokens.Entries
import Mathlib.Data.List.Induction
import Mathlib.Data.List.Nodup

/-!
# Collecting entries

Entries that are collected one by one have each name once. If the names to be collected
are distinct already, collecting them changes neither their order nor their values.
-/

namespace DesignTokens.Entries

variable {α β : Type}

/-- Put pairs one after the other. -/
def putAll (entries : Entries α) (pairs : List (String × α)) : Entries α :=
  pairs.foldl (fun entries pair => put pair.1 pair.2 entries) entries

theorem has_iff_mem_names (name : String) (entries : Entries α) :
    entries.has name = true ↔ name ∈ entries.names := by
  induction entries with
  | nil => simp [has, names]
  | cons entry rest ih =>
      obtain ⟨key, value⟩ := entry
      by_cases h : key = name
      · simp [has, get?, names, h]
      · have tail : (get? name rest).isSome = true ↔ name ∈ List.map Prod.fst rest := ih
        simp [has, get?, names, h, Ne.symm h, tail]

theorem get?_eq_none_iff (name : String) (entries : Entries α) :
    entries.get? name = none ↔ name ∉ entries.names := by
  rw [← has_iff_mem_names, has, Bool.not_eq_true, Option.isSome_eq_false_iff,
    Option.isNone_iff_eq_none]

/-- A new name is put at the end. -/
theorem put_of_notMem {name : String} {entries : Entries α} (fresh : name ∉ entries.names)
    (value : α) : entries.put name value = entries ++ [(name, value)] := by
  induction entries with
  | nil => rfl
  | cons entry rest ih =>
      obtain ⟨key, old⟩ := entry
      have apart : key ≠ name ∧ name ∉ names rest := by
        simpa [names, eq_comm] using fresh
      rw [put, if_neg apart.1, ih apart.2]
      rfl

theorem put_put_self (name : String) (first second : α) (entries : Entries α) :
    (entries.put name first).put name second = entries.put name second := by
  induction entries with
  | nil => simp [put]
  | cons entry rest ih =>
      obtain ⟨key, old⟩ := entry
      by_cases h : key = name
      · simp [put, h]
      · simp [put, h, ih]

theorem nodup_names_put {entries : Entries α} (nodup : entries.names.Nodup) (name : String)
    (value : α) : (entries.put name value).names.Nodup := by
  rw [names_put]
  split
  case isTrue => exact nodup
  case isFalse absent =>
      rw [has_iff_mem_names] at absent
      rw [List.nodup_append]
      refine ⟨nodup, List.nodup_singleton name, ?_⟩
      intro known mem other here same
      rw [List.mem_singleton] at here
      exact absent (here ▸ same ▸ mem)

/-- Entries after `put` are the old ones and the new one. -/
theorem forall_mem_put {entries : Entries α} {holds : String × α → Prop}
    (old : ∀ entry ∈ entries, holds entry) {name : String} {value : α}
    (new : holds (name, value)) : ∀ entry ∈ entries.put name value, holds entry := by
  induction entries with
  | nil => simpa [put] using new
  | cons entry rest ih =>
      obtain ⟨key, kept⟩ := entry
      have tail := ih fun entry mem => old entry (List.mem_cons_of_mem _ mem)
      intro entry mem
      rw [put] at mem
      split at mem
      case isTrue same =>
          rcases List.mem_cons.mp mem with rfl | mem
          · exact same ▸ new
          · exact old entry (List.mem_cons_of_mem _ mem)
      case isFalse =>
          rcases List.mem_cons.mp mem with rfl | mem
          · exact old _ List.mem_cons_self
          · exact tail entry mem

theorem put_ne_nil (name : String) (value : α) (entries : Entries α) :
    entries.put name value ≠ [] := by
  cases entries with
  | nil => simp [put]
  | cons entry rest =>
      rw [put]
      split <;> simp

/-- Entries of distinct names that all have a property. -/
structure Collected (holds : String → α → Prop) (entries : Entries α) : Prop where
  distinct : entries.names.Nodup
  each : ∀ entry ∈ entries, holds entry.1 entry.2

section Collected

variable {holds : String → α → Prop} {entries : Entries α}

theorem collected_nil : Collected holds ([] : Entries α) := by
  constructor
  · exact List.nodup_nil
  · intro entry mem
    exact absurd mem List.not_mem_nil

theorem Collected.put (collected : Collected holds entries) {name : String} {value : α}
    (new : holds name value) : Collected holds (entries.put name value) := by
  constructor
  · exact nodup_names_put collected.distinct name value
  · exact forall_mem_put collected.each new

theorem Collected.filter (collected : Collected holds entries) (keep : String × α → Bool) :
    Collected holds (entries.filter keep) := by
  constructor
  · exact (List.filter_sublist.map Prod.fst).nodup collected.distinct
  · intro entry mem
    exact collected.each entry (List.mem_of_mem_filter mem)

theorem collected_ofPairs {pairs : List (String × α)}
    (each : ∀ pair ∈ pairs, holds pair.1 pair.2) : (ofPairs pairs).Collected holds := by
  have run : ∀ entries : Entries α, entries.Collected holds →
      (pairs.foldl (fun entries pair => put pair.1 pair.2 entries) entries).Collected holds := by
    induction pairs with
    | nil => exact fun _ collected => collected
    | cons pair rest ih =>
        intro entries collected
        exact ih (fun other mem => each other (List.mem_cons_of_mem _ mem)) _
          (collected.put (each pair List.mem_cons_self))
  exact run [] collected_nil

end Collected

/-- The value of a name is among the entries. -/
theorem mem_of_get?_eq_some {entries : Entries α} {name : String} {value : α}
    (h : entries.get? name = some value) : (name, value) ∈ entries := by
  induction entries with
  | nil => simp at h
  | cons entry rest ih =>
      obtain ⟨key, kept⟩ := entry
      rw [get?] at h
      split at h
      case isTrue same =>
          cases h
          exact same ▸ List.mem_cons_self
      case isFalse => exact List.mem_cons_of_mem _ (ih h)

/-- A change of one name keeps a property that it establishes for the default value and
keeps for any other. -/
theorem Collected.update {holds : String → α → Prop} {entries : Entries α}
    (collected : Collected holds entries) {name : String} {default : α} {change : α → α}
    (first : holds name (change default))
    (again : ∀ value, holds name value → holds name (change value)) :
    Collected holds (entries.update name default change) := by
  apply collected.put
  cases found : entries.get? name with
  | none => exact first
  | some value => exact again value (collected.each _ (mem_of_get?_eq_some found))

/-- Changing the values of distinct new names one by one appends them in their order. -/
theorem foldl_update_of_nodup {entries : Entries α} {pairs : List (String × β)}
    (default : α) (change : β → α → α) (nodup : (pairs.map Prod.fst).Nodup)
    (fresh : ∀ name ∈ pairs.map Prod.fst, name ∉ entries.names) :
    pairs.foldl (fun entries pair => entries.update pair.1 default (change pair.2)) entries =
      entries ++ mapValues (change · default) pairs := by
  induction pairs generalizing entries with
  | nil => simp [mapValues]
  | cons pair rest ih =>
      obtain ⟨name, value⟩ := pair
      rw [List.map_cons, List.nodup_cons] at nodup
      have absent : name ∉ entries.names := fresh name (by simp)
      have first : entries.update name default (change value) =
          entries ++ [(name, change value default)] := by
        rw [update, (get?_eq_none_iff ..).mpr absent, put_of_notMem absent]
        rfl
      have tail : ∀ other ∈ rest.map Prod.fst,
          other ∉ names (entries ++ [(name, change value default)]) := by
        intro other mem here
        rw [names, List.map_append, List.mem_append] at here
        rcases here with known | same
        · exact fresh other (List.mem_cons_of_mem _ mem) known
        · exact nodup.1 (List.mem_singleton.mp same ▸ mem)
      rw [List.foldl_cons, first, ih nodup.2 tail, List.append_assoc]
      rfl

/-- Entries that are collected by changing distinct names are the changed pairs. -/
theorem foldl_update_nil_of_nodup {pairs : List (String × β)} (default : α)
    (change : β → α → α) (nodup : (pairs.map Prod.fst).Nodup) :
    pairs.foldl (fun entries pair => update pair.1 default (change pair.2) entries) [] =
      mapValues (change · default) pairs :=
  foldl_update_of_nodup default change nodup fun _ _ => List.not_mem_nil

/-- Values that a change leaves alone stay as they are. -/
theorem mapValues_eq_self {f : α → α} {entries : Entries α}
    (same : ∀ entry ∈ entries, f entry.2 = entry.2) : entries.mapValues f = entries := by
  have unchanged : ∀ entry ∈ entries, (entry.1, f entry.2) = id entry := by
    intro entry mem
    rw [same entry mem]
    rfl
  rw [mapValues, List.map_congr_left unchanged, List.map_id]

/-- Pairs of distinct names are their own entries. -/
theorem ofPairs_of_nodup {pairs : List (String × α)} (nodup : (pairs.map Prod.fst).Nodup) :
    ofPairs pairs = pairs := by
  cases pairs with
  | nil => rfl
  | cons pair rest =>
      exact (foldl_update_nil_of_nodup pair.2 (fun value _ => value) nodup).trans (List.map_id _)

/-- Pairs are their own entries exactly if their names are distinct. -/
theorem ofPairs_eq_self_iff {pairs : List (String × α)} :
    ofPairs pairs = pairs ↔ (pairs.map Prod.fst).Nodup := by
  constructor
  · intro same
    have collected : (ofPairs pairs).Collected fun _ _ => True := collected_ofPairs fun _ _ => trivial
    exact same ▸ collected.distinct
  · exact ofPairs_of_nodup

theorem ofPairs_concat (pairs : List (String × α)) (pair : String × α) :
    ofPairs (pairs ++ [pair]) = (ofPairs pairs).put pair.1 pair.2 := by
  rw [ofPairs, List.foldl_append]
  rfl

/-- A name has the value of the last pair that is given the name. -/
theorem get?_ofPairs (name : String) (pairs : List (String × α)) :
    (ofPairs pairs).get? name =
      ((pairs.filter fun pair => pair.1 = name).getLast?).map Prod.snd := by
  induction pairs using List.reverseRecOn with
  | nil => rfl
  | append_singleton pairs pair ih =>
      rw [ofPairs_concat, List.filter_append]
      by_cases same : pair.1 = name
      · subst same
        simp
      · rw [get?_put_of_ne (Ne.symm same), ih]
        simp [same]

/-- The first name stays the first one. -/
theorem head?_names_ofPairs (pairs : List (String × α)) :
    (ofPairs pairs).names.head? = (pairs.map Prod.fst).head? := by
  induction pairs using List.reverseRecOn with
  | nil => rfl
  | append_singleton pairs pair ih =>
      rw [ofPairs_concat, names_put, List.map_append, List.head?_append, ← ih]
      split
      case isTrue known =>
          have some_name : (ofPairs pairs).names ≠ [] :=
            List.ne_nil_of_mem ((has_iff_mem_names ..).mp known)
          obtain ⟨name, rest, spelled⟩ := List.exists_cons_of_ne_nil some_name
          rw [spelled]
          rfl
      case isFalse =>
          rw [List.head?_append]
          rfl

theorem putAll_nil_of_nodup {pairs : List (String × α)} (nodup : (pairs.map Prod.fst).Nodup) :
    putAll [] pairs = pairs :=
  ofPairs_of_nodup nodup

/-- Changing one name several times is changing it once by all changes. -/
theorem foldl_update_self (name : String) (default : α) (change : β → α → α)
    {changes : List β} (some_change : changes ≠ []) (entries : Entries α) :
    changes.foldl (fun entries x => entries.update name default (change x)) entries =
      entries.update name default fun value =>
        changes.foldl (fun value x => change x value) value := by
  induction changes generalizing entries with
  | nil => exact absurd rfl some_change
  | cons first rest ih =>
      by_cases last : rest = []
      · subst last
        rfl
      · rw [List.foldl_cons, ih last]
        simp [update, put_put_self]

/-- Dropping some entries and keeping the names of the others keeps names distinct. -/
theorem names_filterMap_sublist {f : String × α → Option (String × β)}
    (named : ∀ entry other, f entry = some other → other.1 = entry.1) (entries : Entries α) :
    (names (List.filterMap f entries)).Sublist entries.names := by
  induction entries with
  | nil => exact List.Sublist.refl []
  | cons entry rest ih =>
      rw [List.filterMap_cons]
      cases h : f entry with
      | none => exact ih.cons _
      | some other =>
          have same := named entry other h
          simp only [names, List.map_cons, same]
          exact ih.cons_cons _

end DesignTokens.Entries
