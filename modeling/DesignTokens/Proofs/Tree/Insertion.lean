import DesignTokens.Proofs.Tree.Slots
import Mathlib.Data.List.Induction

/-!
# Inserting leaves one by one

A leaf that is inserted at a path replaces whatever meets the path: the leaf or the
subtree at it, and a leaf on the way to it. After a run of insertions a path holds a
leaf exactly if the last insertion that met the path was made at the path itself.
-/

namespace DesignTokens

/-- Two paths meet when one of them leads to the other or beyond it. -/
def Meets (p q : List String) : Prop :=
  p <+: q ∨ q <+: p

/-- A path is above another one that leads beyond it. -/
def Above (p q : List String) : Prop :=
  p <+: q ∧ p ≠ q

instance : DecidableRel Meets := fun p q => inferInstanceAs (Decidable (p <+: q ∨ q <+: p))

instance : DecidableRel Above := fun p q => inferInstanceAs (Decidable (p <+: q ∧ p ≠ q))

theorem Meets.refl (p : List String) : Meets p p := Or.inl (List.prefix_refl p)

@[simp] theorem meets_nil_left (p : List String) : Meets [] p := Or.inl List.nil_prefix

@[simp] theorem meets_nil_right (p : List String) : Meets p [] := Or.inr List.nil_prefix

@[simp] theorem meets_cons_cons (name other : String) (p q : List String) :
    Meets (name :: p) (other :: q) ↔ name = other ∧ Meets p q := by
  simp only [Meets, List.cons_prefix_cons]
  constructor
  · rintro (⟨h, hp⟩ | ⟨h, hp⟩)
    · exact ⟨h, Or.inl hp⟩
    · exact ⟨h.symm, Or.inr hp⟩
  · rintro ⟨h, hp | hp⟩
    · exact Or.inl ⟨h, hp⟩
    · exact Or.inr ⟨h.symm, hp⟩

theorem Above.meets {p q : List String} (h : Above p q) : Meets p q := Or.inl h.1

@[simp] theorem above_cons_cons (name other : String) (p q : List String) :
    Above (name :: p) (other :: q) ↔ name = other ∧ Above p q := by
  simp only [Above, List.cons_prefix_cons, ne_eq, List.cons.injEq]
  constructor
  · rintro ⟨⟨h, hp⟩, hne⟩
    exact ⟨h, hp, fun e => hne ⟨h, e⟩⟩
  · rintro ⟨h, hp, hne⟩
    exact ⟨⟨h, hp⟩, fun e => hne e.2⟩

variable {α : Type}

/-- The value that the entries of a list give a path, the last one counting. -/
def lastValue? (path : List String) (entries : List (List String × α)) : Option α :=
  (entries.reverse.find? fun entry => entry.1 = path).map Prod.snd

theorem mem_of_lastValue?_eq_some {path : List String} {entries : List (List String × α)}
    {value : α} (h : lastValue? path entries = some value) : (path, value) ∈ entries := by
  obtain ⟨entry, found, rfl⟩ := Option.map_eq_some_iff.mp h
  have at_path : entry.1 = path := by simpa using List.find?_some found
  have mem := List.mem_of_find?_eq_some found
  rw [List.mem_reverse] at mem
  exact at_path ▸ mem

theorem lastValue?_eq_none_iff {path : List String} {entries : List (List String × α)} :
    lastValue? path entries = none ↔ path ∉ entries.map Prod.fst := by
  simp only [lastValue?, Option.map_eq_none_iff, List.find?_eq_none, List.mem_reverse,
    decide_eq_true_eq, List.mem_map, not_exists, not_and]

namespace Tree

/-- The value of the leaf at a path. -/
def leafAt? : List String → Tree α → Option α
  | [], _ => none
  | name :: rest, tree =>
    match tree.slot? name, rest with
    | some (.leaf value), [] => some value
    | some (.node children), _ => children.leafAt? rest
    | _, _ => none

/-- Let the leaf at a path take a value; the empty path changes nothing. -/
def insertLeaf (tree : Tree α) (entry : List String × α) : Tree α :=
  (tree.set? entry.1 (.leaf entry.2)).getD tree

/-- Insert leaves one after the other. -/
def insertAll (tree : Tree α) (entries : List (List String × α)) : Tree α :=
  entries.foldl insertLeaf tree

@[simp] theorem leafAt?_nil_path (tree : Tree α) : tree.leafAt? [] = none := rfl

@[simp] theorem leafAt?_nil (path : List String) : (nil : Tree α).leafAt? path = none := by
  cases path <;> rfl

theorem leafAt?_of_leaf {name : String} {value : α} {tree : Tree α}
    (h : tree.slot? name = some (.leaf value)) (rest : List String) :
    tree.leafAt? (name :: rest) = if rest = [] then some value else none := by
  cases rest <;> simp [leafAt?, h]

theorem leafAt?_of_node {name : String} {children tree : Tree α}
    (h : tree.slot? name = some (.node children)) (rest : List String) :
    tree.leafAt? (name :: rest) = children.leafAt? rest := by
  simp [leafAt?, h]

theorem leafAt?_of_slot?_eq_none {name : String} {tree : Tree α} (h : tree.slot? name = none)
    (rest : List String) : tree.leafAt? (name :: rest) = none := by
  simp [leafAt?, h]

theorem leafAt?_congr {name : String} {tree other : Tree α}
    (h : tree.slot? name = other.slot? name) (rest : List String) :
    tree.leafAt? (name :: rest) = other.leafAt? (name :: rest) := by
  simp only [leafAt?, h]

/-- A path of at least two names leads through the subtree of the first one. -/
theorem leafAt?_childrenOf (name : String) {rest : List String} (h : rest ≠ [])
    (tree : Tree α) : (tree.childrenOf name).leafAt? rest = tree.leafAt? (name :: rest) := by
  rw [childrenOf_eq]
  cases hs : tree.slot? name with
  | none => simp [leafAt?_of_slot?_eq_none hs]
  | some slot =>
      cases slot with
      | leaf value => simp [leafAt?_of_leaf hs, h, Slot.children]
      | node children => simp [leafAt?_of_node hs, Slot.children]

theorem leafAt?_cons_of_childrenOf {name : String} {rest : List String} {tree : Tree α}
    {value : α} (h : (tree.childrenOf name).leafAt? rest = some value) :
    tree.leafAt? (name :: rest) = some value := by
  have nonempty : rest ≠ [] := by
    rintro rfl
    simp at h
  rw [← leafAt?_childrenOf name nonempty, h]

@[simp] theorem insertLeaf_nil (tree : Tree α) (value : α) :
    tree.insertLeaf ([], value) = tree := rfl

theorem insertLeaf_singleton (tree : Tree α) (name : String) (value : α) :
    tree.insertLeaf ([name], value) = tree.put name (.leaf value) := rfl

theorem insertLeaf_cons (tree : Tree α) (name : String) {rest : List String} (h : rest ≠ [])
    (value : α) : tree.insertLeaf (name :: rest, value) =
      tree.put name (.node ((tree.childrenOf name).insertLeaf (rest, value))) := by
  cases rest with
  | nil => exact absurd rfl h
  | cons second more => rfl

@[simp] theorem insertAll_nil (tree : Tree α) : tree.insertAll [] = tree := rfl

@[simp] theorem insertAll_cons (tree : Tree α) (entry : List String × α)
    (entries : List (List String × α)) :
    tree.insertAll (entry :: entries) = (tree.insertLeaf entry).insertAll entries := rfl

@[simp] theorem insertAll_append (tree : Tree α) (first second : List (List String × α)) :
    tree.insertAll (first ++ second) = (tree.insertAll first).insertAll second := by
  simp [insertAll]

/-- An inserted leaf stands at its path, hides every other path that meets it, and
leaves all others as they were. -/
theorem leafAt?_insertLeaf (tree : Tree α) {path : List String} (nonempty : path ≠ [])
    (value : α) (other : List String) :
    (tree.insertLeaf (path, value)).leafAt? other =
      if path = other then some value
      else if Meets path other then none else tree.leafAt? other := by
  induction path generalizing tree other with
  | nil => exact absurd rfl nonempty
  | cons name rest ih =>
      cases other with
      | nil => simp
      | cons key more =>
          by_cases same : name = key
          · subst same
            by_cases last : rest = []
            · subst last
              rw [insertLeaf_singleton, leafAt?_of_leaf (slot?_put_self ..)]
              simp [eq_comm]
            · rw [insertLeaf_cons tree name last, leafAt?_of_node (slot?_put_self ..), ih _ last]
              by_cases here : more = []
              · simp [here]
              · simp [leafAt?_childrenOf name here]
          · have outside : (tree.insertLeaf (name :: rest, value)).slot? key = tree.slot? key := by
              by_cases last : rest = []
              · subst last
                exact slot?_put_of_ne (Ne.symm same) _ _
              · rw [insertLeaf_cons tree name last]
                exact slot?_put_of_ne (Ne.symm same) _ _
            rw [leafAt?_congr outside]
            simp [same]

/-- A path holds what the last insertion that met it gave it: its value if that
insertion was made at the path, and no leaf otherwise. -/
theorem leafAt?_insertAll (tree : Tree α) {entries : List (List String × α)}
    (nonempty : ∀ entry ∈ entries, entry.1 ≠ []) (path : List String) :
    (tree.insertAll entries).leafAt? path =
      match entries.reverse.find? fun entry => Meets entry.1 path with
      | some entry => if entry.1 = path then some entry.2 else none
      | none => tree.leafAt? path := by
  induction entries using List.reverseRecOn with
  | nil => simp
  | append_singleton entries entry ih =>
      have tail := ih fun e he => nonempty e (by simp [he])
      have own : entry.1 ≠ [] := nonempty entry (by simp)
      rw [insertAll_append, insertAll_cons, insertAll_nil,
        show entry = (entry.1, entry.2) from rfl, leafAt?_insertLeaf _ own]
      by_cases same : entry.1 = path
      · simp [same, Meets.refl]
      · by_cases meets : Meets entry.1 path
        · simp [same, meets]
        · simp [same, meets, tail]

/-- A leaf after a run of insertions was inserted, or it was there before. -/
theorem mem_or_leafAt?_of_leafAt?_insertAll {tree : Tree α}
    {entries : List (List String × α)} (nonempty : ∀ entry ∈ entries, entry.1 ≠ [])
    {path : List String} {value : α} (h : (tree.insertAll entries).leafAt? path = some value) :
    (path, value) ∈ entries ∨ tree.leafAt? path = some value := by
  rw [leafAt?_insertAll tree nonempty] at h
  cases met : entries.reverse.find? fun entry => Meets entry.1 path with
  | none =>
      simp only [met] at h
      exact Or.inr h
  | some entry =>
      simp only [met, Option.ite_none_right_eq_some, Option.some.injEq] at h
      obtain ⟨rfl, rfl⟩ := h
      exact Or.inl (List.mem_reverse.mp (List.mem_of_find?_eq_some met))

/-- Every leaf of a tree is among the entries of a list. -/
def LeavesIn (tree : Tree α) (entries : List (List String × α)) : Prop :=
  ∀ path value, tree.leafAt? path = some value → (path, value) ∈ entries

theorem leavesIn_nil (entries : List (List String × α)) : (nil : Tree α).LeavesIn entries := by
  intro path value found
  simp at found

theorem LeavesIn.insertAll {tree : Tree α} {before entries : List (List String × α)}
    (known : tree.LeavesIn before) (nonempty : ∀ entry ∈ entries, entry.1 ≠ []) :
    (tree.insertAll entries).LeavesIn (before ++ entries) := by
  intro path value found
  rw [List.mem_append]
  rcases mem_or_leafAt?_of_leafAt?_insertAll nonempty found with inserted | present
  · exact Or.inr inserted
  · exact Or.inl (known path value present)

/-- Where no entry lies below a path, the tree has no leaf below it. -/
theorem LeavesIn.leafAt?_eq_none_of_above {tree : Tree α} {entries : List (List String × α)}
    (known : tree.LeavesIn entries) {path : List String}
    (free : ∀ entry ∈ entries, ¬ Above path entry.1) {below : List String}
    (above : Above path below) : tree.leafAt? below = none := by
  by_contra occupied
  obtain ⟨value, there⟩ := Option.ne_none_iff_exists'.mp occupied
  exact free _ (known below value there) above

theorem lastValue?_eq_some_of_leafAt?_insertAll {entries : List (List String × α)}
    (nonempty : ∀ entry ∈ entries, entry.1 ≠ []) {path : List String} {value : α}
    (h : ((nil : Tree α).insertAll entries).leafAt? path = some value) :
    lastValue? path entries = some value := by
  rw [leafAt?_insertAll nil nonempty] at h
  cases met : entries.reverse.find? fun entry => Meets entry.1 path with
  | none => simp [met] at h
  | some entry =>
      simp only [met, Option.ite_none_right_eq_some, Option.some.injEq] at h
      obtain ⟨before, after, split, none_before⟩ :=
        (List.find?_eq_some_iff_append.mp met).2
      have skip : before.find? (fun e => decide (e.1 = path)) = none := by
        rw [List.find?_eq_none]
        intro e he at_path
        have := none_before e he
        simp only [decide_eq_true_eq] at at_path
        simp [at_path, Meets.refl] at this
      simp [lastValue?, split, List.find?_append, skip, h.1, h.2]

/-- Below a path at which a leaf was inserted stands only what was inserted later. -/
theorem mem_of_leafAt?_below {before after : List (List String × α)} {path below : List String}
    {value kept : α} (nonempty : ∀ entry ∈ before ++ (path, value) :: after, entry.1 ≠ [])
    (above : Above path below)
    (h : ((nil : Tree α).insertAll (before ++ (path, value) :: after)).leafAt? below = some kept) :
    (below, kept) ∈ after := by
  rw [insertAll_append, insertAll_cons] at h
  have later : ∀ entry ∈ after, entry.1 ≠ [] := fun e he => nonempty e (by simp [he])
  rcases mem_or_leafAt?_of_leafAt?_insertAll later h with inserted | present
  · exact inserted
  · rw [leafAt?_insertLeaf _ (nonempty (path, value) (by simp)), if_neg above.2,
      if_pos above.meets] at present
    exact absurd present.symm (Option.some_ne_none kept)

end Tree

end DesignTokens
