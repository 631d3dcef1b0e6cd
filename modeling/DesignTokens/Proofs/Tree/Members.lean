import DesignTokens.Proofs.Json.Parts
import DesignTokens.Proofs.Tree.Slots

/-!
# Trees and objects

The tree that an object stands for is written as the object, and a tree of texts is the tree
that its object stands for.
-/

namespace DesignTokens.Tree

theorem ofMembers_cons (name : String) (value : Json) (rest : List (String × Json)) :
    ofMembers ((name, value) :: rest) = cons name (slotOf value) (ofMembers rest) := by
  rw [ofMembers]

theorem slotOf_object (members : List (String × Json)) :
    slotOf (.object members) = .node (ofMembers members) := by
  rw [slotOf]

/-- An entry is written as it was read if the entries of an object are. -/
theorem toMembers_cons_slotOf (name : String) {value : Json} (rest : Tree Json)
    (below : ∀ members, value = .object members → (ofMembers members).toMembers = members) :
    (cons name (slotOf value) rest).toMembers = (name, value) :: rest.toMembers := by
  cases value with
  | object members => rw [slotOf_object, cons, toMembers, below members rfl]
  | _ => rw [slotOf, cons, toMembers]

/-- The tree of an object is written as the object. -/
theorem toMembers_ofMembers (members : List (String × Json)) :
    (ofMembers members).toMembers = members := by
  have whole : ∀ value inner, value = Json.object inner → (ofMembers inner).toMembers = inner := by
    intro value
    induction value using Json.partInduction with
    | object members ih =>
        rintro inner same
        obtain rfl := Json.object.inj same
        clear same
        induction members with
        | nil => rw [ofMembers, toMembers]
        | cons member rest tail =>
            obtain ⟨name, value⟩ := member
            have own := ih _ List.mem_cons_self
            rw [ofMembers_cons, toMembers_cons_slotOf name _ own,
              tail fun other mem => ih other (List.mem_cons_of_mem _ mem)]
    | _ => exact fun _ same => by cases same
  exact whole _ members rfl

/-- A tree of texts is read back from its object. -/
theorem ofMembers_toMembers_map_string (tree : Tree String) :
    ofMembers (tree.map .string).toMembers = tree.map .string := by
  induction tree with
  | nil => rw [map, toMembers, ofMembers]
  | leaf name value rest ih => rw [map, toMembers, ofMembers_cons, ih, slotOf, cons]
  | node name children rest ihc ih =>
      rw [map, toMembers, ofMembers_cons, ih, slotOf_object, ihc, cons]

theorem map_fst_toMembers_map {α : Type} (f : α → Json) (tree : Tree α) :
    (tree.map f).toMembers.map Prod.fst = tree.names := by
  induction tree with
  | nil => rfl
  | leaf name value rest ih => rw [map, toMembers, List.map_cons, ih, names]
  | node name children rest _ ih => rw [map, toMembers, List.map_cons, ih, names]

end DesignTokens.Tree
