import DesignTokens.Proofs.Tree.Merging

/-!
# Properties of names and leaves

A property of names and one of values hold throughout a tree if they hold of every name at every
level and of every leaf. Trees of this kind are closed under setting and merging.
-/

namespace DesignTokens

variable {α β : Type} {named : String → Prop} {valued : α → Prop}

/-- Every name of a tree has one property and every leaf has another. -/
def Tree.Each (named : String → Prop) (valued : α → Prop) : Tree α → Prop
  | nil => True
  | leaf name value rest => named name ∧ valued value ∧ rest.Each named valued
  | node name children rest =>
    named name ∧ children.Each named valued ∧ rest.Each named valued

/-- Every name below a slot has one property and every leaf has another. -/
def Slot.Each (named : String → Prop) (valued : α → Prop) : Slot α → Prop
  | leaf value => valued value
  | node children => children.Each named valued

namespace Tree

instance decidableEach [DecidablePred named] [DecidablePred valued] :
    DecidablePred (Each named valued)
  | nil => .isTrue trivial
  | leaf name value rest =>
    have : Decidable (rest.Each named valued) := decidableEach rest
    inferInstanceAs (Decidable (named name ∧ valued value ∧ rest.Each named valued))
  | node name children rest =>
    have : Decidable (children.Each named valued) := decidableEach children
    have : Decidable (rest.Each named valued) := decidableEach rest
    inferInstanceAs
      (Decidable (named name ∧ children.Each named valued ∧ rest.Each named valued))

theorem each_nil : (nil : Tree α).Each named valued := trivial

@[simp] theorem each_cons (name : String) (slot : Slot α) (rest : Tree α) :
    (cons name slot rest).Each named valued ↔
      named name ∧ slot.Each named valued ∧ rest.Each named valued := by
  cases slot <;> exact Iff.rfl

theorem Each.put {tree : Tree α} (each : tree.Each named valued) {name : String}
    (own : named name) {slot : Slot α} (below : slot.Each named valued) :
    (tree.put name slot).Each named valued := by
  induction tree using entryInduction with
  | nil => exact (each_cons ..).mpr ⟨own, below, trivial⟩
  | cons key old rest ih =>
      obtain ⟨first, inside, tail⟩ := (each_cons ..).mp each
      rw [put_cons]
      split
      · exact (each_cons ..).mpr ⟨own, below, tail⟩
      · exact (each_cons ..).mpr ⟨first, inside, ih tail⟩

theorem Each.childrenOf {tree : Tree α} (each : tree.Each named valued) (name : String) :
    (tree.childrenOf name).Each named valued := by
  have split : ∀ name (slot : Slot α) rest, (cons name slot rest).Each named valued →
      slot.Each named valued ∧ rest.Each named valued :=
    fun _ _ _ level => ((each_cons ..).mp level).2
  rw [childrenOf_eq]
  cases found : tree.slot? name with
  | none => trivial
  | some slot =>
      have own := slot_of_forall split each found
      cases slot with
      | leaf value => trivial
      | node children => exact own

/-- Setting keeps the properties if the names of the path and what is set have them. -/
theorem Each.setAt {tree : Tree α} (each : tree.Each named valued) {first : String}
    {more : List String} (path : ∀ name ∈ first :: more, named name) {slot : Slot α}
    (below : slot.Each named valued) : (tree.setAt first more slot).Each named valued := by
  induction more generalizing tree first with
  | nil => exact each.put (path first List.mem_cons_self) below
  | cons second rest ih =>
      rw [List.forall_mem_cons] at path
      exact each.put path.1 (ih (each.childrenOf first) path.2)

/-- Merging keeps the properties if both trees have them. -/
theorem Each.merge {source : Tree α} (given : source.Each named valued) {target : Tree α}
    (each : target.Each named valued) : (target.merge source).Each named valued := by
  induction source generalizing target with
  | nil => exact each
  | leaf name value rest ih => exact ih given.2.2 (each.put given.1 given.2.1)
  | node name children rest ihc ih =>
      obtain ⟨own, below, tail⟩ := given
      exact ih tail (each.put own (ihc below (each.childrenOf name)))

theorem isEmpty_iff {tree : Tree α} : tree.isEmpty = true ↔ tree = nil := by
  cases tree <;> simp [isEmpty]

theorem isEmpty_map (f : α → β) (tree : Tree α) : (tree.map f).isEmpty = tree.isEmpty := by
  cases tree <;> rfl

theorem map_eq_nil_iff {f : α → β} {tree : Tree α} : tree.map f = nil ↔ tree = nil := by
  cases tree <;> simp [map]

theorem merge_eq_nil_iff {target source : Tree α} :
    target.merge source = nil ↔ target = nil ∧ source = nil := by
  induction source using entryInduction generalizing target with
  | nil => simp
  | cons name slot rest ih => simp [merge_cons, ih]

end Tree

end DesignTokens
