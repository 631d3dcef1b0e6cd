import DesignTokens.Export.Colors

/-!
# Nodes and their visit

A leaf is written as an object with a type and a value, and reads back as the leaf that
these two make. The readers of the color and the gradient section enter groups and stop
at every other node; the induction principle of this visit speaks of nodes by what they
read as, so that proofs about a reader have one case for a group and one for the rest.
-/

namespace DesignTokens.Export

/-- The leaf of a type and a value. -/
def leafNode (tag : String) (payload : Json) : Json :=
  .object [("type", .string tag), ("value", payload)]

@[simp] theorem ofJson_leafNode (tag : String) (payload : Json) :
    Node.ofJson (leafNode tag payload) = Node.ofLeaf tag payload := by
  simp [leafNode, Node.ofJson, Node.ofMembers, Node.tagged?, Entries.get?]

/-- A group is an object, and its children are the members of the object. -/
theorem eq_object_of_ofJson_eq_group {value : Json} {children : List (String × Json)}
    (h : Node.ofJson value = .group children) : value = .object children := by
  cases value with
  | object members => exact congrArg Json.object (Node.members_eq_of_group h).symm
  | null => cases h
  | bool _ => cases h
  | number _ => cases h
  | string _ => cases h
  | array _ => cases h

/-- A token was made of a value that passed the check of its kind. -/
def Node.Checked : Node → Prop
  | .color value => ∃ raw, value = Color.clean raw
  | .style token => ∃ record, TextStyle.check record = .ok token
  | .gradient token => ∃ record, Gradient.checkPayload record = .ok token
  | _ => True

theorem Node.checked_ofLeaf (tag : String) (payload : Json) : (ofLeaf tag payload).Checked := by
  unfold ofLeaf
  split
  case isTrue =>
      cases payload with
      | string raw => exact ⟨raw, rfl⟩
      | _ => trivial
  case isFalse =>
      split
      case isTrue =>
          cases payload with
          | object record =>
              cases h : TextStyle.check record with
              | ok token =>
                  simp only [h]
                  exact ⟨record, h⟩
              | error issues => simp only [h, Checked]
          | _ => trivial
      case isFalse =>
          split
          case isTrue =>
              cases payload with
              | object record =>
                  cases h : Gradient.checkPayload record with
                  | ok token =>
                      simp only [h]
                      exact ⟨record, h⟩
                  | error issues => simp only [h, Checked]
              | _ => trivial
          case isFalse => trivial

/-- Whatever a value reads as has passed its check. -/
theorem Node.checked_ofJson (value : Json) : (ofJson value).Checked := by
  cases value with
  | object members =>
      change (ofMembers members).Checked
      unfold ofMembers
      split
      · exact checked_ofLeaf _ _
      · trivial
  | _ => trivial

/-- Induction on the visit of a section, along the paths of its nodes. -/
theorem visitInduction {atNode : String → Json → Prop}
    {below : String → List (String × Json) → Prop}
    (group : ∀ path members, Node.ofJson (.object members) = .group members →
      below path members → atNode path (.object members))
    (other : ∀ path value, (∀ members, Node.ofJson value ≠ .group members) → atNode path value)
    (nil : ∀ parent, below parent [])
    (cons : ∀ parent name value rest, atNode (Key.joinPath parent name) value →
      below parent rest → below parent ((name, value) :: rest)) :
    (∀ value path, atNode path value) ∧ ∀ nodes parent, below parent nodes := by
  have scalar : ∀ value, (∀ members, value ≠ Json.object members) →
      ∀ path, atNode path value := by
    intro value plain path
    apply other
    intro members h
    exact plain members (eq_object_of_ofJson_eq_group h)
  have object : ∀ members, (∀ parent, below parent members) →
      ∀ path, atNode path (.object members) := by
    intro members ih path
    cases h : Node.ofJson (.object members) with
    | group children =>
        have same : children = members := Node.members_eq_of_group h
        subst same
        exact group path children h (ih path)
    | _ => exact other path _ fun children => by simp [h]
  -- The recursor also speaks of the items of arrays, which the visit never enters.
  have nodes : ∀ value path, atNode path value := by
    intro value
    refine Json.rec (motive_1 := fun value => ∀ path, atNode path value)
      (motive_2 := fun _ => True)
      (motive_3 := fun members => ∀ parent, below parent members)
      (motive_4 := fun member => ∀ path, atNode path member.2)
      ?null ?bool ?number ?string ?array ?object ?noItem ?item ?noMember ?member ?pair value
    case null => exact scalar _ (by simp)
    case bool => exact fun _ => scalar _ (by simp)
    case number => exact fun _ => scalar _ (by simp)
    case string => exact fun _ => scalar _ (by simp)
    case array => exact fun _ _ => scalar _ (by simp)
    case object => exact object
    case noItem => trivial
    case item => exact fun _ _ _ _ => trivial
    case noMember => exact nil
    case member =>
      intro member rest own others parent
      exact cons parent member.1 member.2 rest (own _) (others parent)
    case pair => exact fun _ _ own => own
  refine ⟨nodes, fun members => ?_⟩
  induction members with
  | nil => exact nil
  | cons member rest ih =>
      intro parent
      exact cons parent member.1 member.2 rest (nodes member.2 _) (ih parent)

end DesignTokens.Export
