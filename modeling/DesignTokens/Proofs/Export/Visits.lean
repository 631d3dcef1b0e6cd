import DesignTokens.Export.Read
import DesignTokens.Proofs.Export.Nodes
import DesignTokens.Proofs.Json.Parts

/-!
# The visit of an export

Each node that the reader of an export visits has an address, the names that lead to it, and
a fate: it is kept, entered, or reported and dropped. The fates of the visit are those that
the notices of the reader are made of.
-/

namespace DesignTokens.Export

/-- A visited node: the names that lead to it and what becomes of it. -/
structure Visit where
  address : List String
  fate : Fate
  deriving DecidableEq, Repr

namespace Visit

/-- A visit as seen from the object that holds a member of the name. -/
def under (name : String) (visit : Visit) : Visit :=
  { visit with address := name :: visit.address }

/-- A node that is neither kept nor entered. -/
def isDropped (visit : Visit) : Bool :=
  visit.fate.notice?.isSome

end Visit

/-- The visit of the members of an object, given the visit of each. -/
def spread (visit : String × Json → List Visit) (members : List (String × Json)) : List Visit :=
  members.flatMap fun member => (visit member).map (Visit.under member.1)

/-- The visit of a node that is not entered. -/
def alone (fates : List Fate) : List Visit :=
  fates.map fun fate => ⟨[], fate⟩

mutual

/-- The nodes that are visited at a path of the color section. -/
def colorVisit (path : String) : Json → List Visit
  | .object members =>
    match Node.ofMembers members with
    | .group _ => ⟨[], .entered⟩ :: colorVisits path members
    | _ => alone (colorFate path (.object members))
  | value => alone (colorFate path value)

/-- The nodes that are visited below a parent in the color section. -/
def colorVisits (parent : String) : List (String × Json) → List Visit
  | [] => []
  | (name, value) :: rest =>
    (colorVisit (Key.joinPath parent name) value).map (Visit.under name) ++
      colorVisits parent rest

end

mutual

/-- The nodes that are visited at a path of the gradient section. -/
def gradientVisit (path : String) : Json → List Visit
  | .object members =>
    match Node.ofMembers members with
    | .group _ => ⟨[], .entered⟩ :: gradientVisits path members
    | _ => alone (gradientFate path (.object members))
  | value => alone (gradientFate path value)

/-- The nodes that are visited below a parent in the gradient section. -/
def gradientVisits (parent : String) : List (String × Json) → List Visit
  | [] => []
  | (name, value) :: rest =>
    (gradientVisit (Key.joinPath parent name) value).map (Visit.under name) ++
      gradientVisits parent rest

end

/-- The visit of a node at the place of a style. -/
def styleVisit (device locale : String) (member : String × Json) : List Visit :=
  alone (styleFates device locale [member])

/-- The visit of a node at the place of a locale. -/
def localeVisit (device : String) (member : String × Json) : List Visit :=
  match Node.ofJson member.2 with
  | .group children => ⟨[], .entered⟩ :: spread (styleVisit device member.1) children
  | _ => alone (localeFates device [member])

/-- The visit of a node at the place of a device. -/
def deviceVisit (member : String × Json) : List Visit :=
  match member.2 with
  | .object locales => ⟨[], .entered⟩ :: spread (localeVisit member.1) locales
  | _ => alone (fontFates [member])

/-- The visit of a section that is an object. -/
def sectionVisit (name : String) (visits : List (String × Json) → List Visit)
    (sections : Entries Json) : List Visit :=
  (visits ((section? name sections).getD [])).map (Visit.under name)

/-- The nodes that are visited in an export, in order. -/
def visits (sections : Entries Json) : List Visit :=
  sectionVisit "color" (colorVisits "") sections ++
    sectionVisit "font" (spread deviceVisit) sections ++
    sectionVisit "gradient" (gradientVisits "") sections

/-- The addresses of the nodes of a visit that are neither kept nor entered. -/
def droppedOf (visits : List Visit) : List (List String) :=
  (visits.filter Visit.isDropped).map Visit.address

section Sections

theorem colorVisits_eq_spread (parent : String) (members : List (String × Json)) :
    colorVisits parent members =
      spread (fun member => colorVisit (Key.joinPath parent member.1) member.2) members := by
  induction members with
  | nil => rfl
  | cons member rest ih =>
      rw [colorVisits, ih]
      rfl

theorem gradientVisits_eq_spread (parent : String) (members : List (String × Json)) :
    gradientVisits parent members =
      spread (fun member => gradientVisit (Key.joinPath parent member.1) member.2) members := by
  induction members with
  | nil => rfl
  | cons member rest ih =>
      rw [gradientVisits, ih]
      rfl

variable {path : String} {value : Json} {members : List (String × Json)}

theorem colorVisit_of_group (h : Node.ofJson (.object members) = .group members) :
    colorVisit path (.object members) = ⟨[], .entered⟩ :: colorVisits path members := by
  have h : Node.ofMembers members = .group members := h
  rw [colorVisit, h]

theorem colorVisit_of_no_group (h : ∀ members, Node.ofJson value ≠ .group members) :
    colorVisit path value = alone (colorFate path value) := by
  cases value with
  | object members =>
      cases kind : Node.ofMembers members with
      | group children => exact absurd kind (h children)
      | _ => rw [colorVisit, kind]
  | _ => rw [colorVisit]; simp

theorem gradientVisit_of_group (h : Node.ofJson (.object members) = .group members) :
    gradientVisit path (.object members) = ⟨[], .entered⟩ :: gradientVisits path members := by
  have h : Node.ofMembers members = .group members := h
  rw [gradientVisit, h]

theorem gradientVisit_of_no_group (h : ∀ members, Node.ofJson value ≠ .group members) :
    gradientVisit path value = alone (gradientFate path value) := by
  cases value with
  | object members =>
      cases kind : Node.ofMembers members with
      | group children => exact absurd kind (h children)
      | _ => rw [gradientVisit, kind]
  | _ => rw [gradientVisit]; simp

end Sections

section Fates

theorem fates_under (name : String) (visits : List Visit) :
    (visits.map (Visit.under name)).map Visit.fate = visits.map Visit.fate := by
  rw [List.map_map]
  rfl

theorem fates_alone (fates : List Fate) : (alone fates).map Visit.fate = fates := by
  rw [alone, List.map_map]
  exact List.map_id fates

theorem fates_spread (visit : String × Json → List Visit) (members : List (String × Json)) :
    (spread visit members).map Visit.fate =
      members.flatMap fun member => (visit member).map Visit.fate := by
  simp only [spread, List.map_flatMap, fates_under]

theorem fates_colorVisit :
    (∀ value path, (colorVisit path value).map Visit.fate = colorFate path value) ∧
      ∀ members parent,
        (colorVisits parent members).map Visit.fate = colorFates parent members := by
  apply visitInduction
  case group =>
    intro path members h ih
    have kind : Node.ofMembers members = .group members := h
    rw [colorVisit_of_group h, List.map_cons, ih, colorFate, kind]
  case other =>
    intro path value h
    rw [colorVisit_of_no_group h, fates_alone]
  case nil => exact fun _ => rfl
  case cons =>
    intro parent name value rest own others
    rw [colorVisits, List.map_append, fates_under, own, others, colorFates]

theorem fates_gradientVisit :
    (∀ value path, (gradientVisit path value).map Visit.fate = gradientFate path value) ∧
      ∀ members parent,
        (gradientVisits parent members).map Visit.fate = gradientFates parent members := by
  apply visitInduction
  case group =>
    intro path members h ih
    have kind : Node.ofMembers members = .group members := h
    rw [gradientVisit_of_group h, List.map_cons, ih, gradientFate, kind]
  case other =>
    intro path value h
    rw [gradientVisit_of_no_group h, fates_alone]
  case nil => exact fun _ => rfl
  case cons =>
    intro parent name value rest own others
    rw [gradientVisits, List.map_append, fates_under, own, others, gradientFates]

theorem fates_styleVisits (device locale : String) (members : List (String × Json)) :
    (spread (styleVisit device locale) members).map Visit.fate =
      styleFates device locale members := by
  simp only [fates_spread, styleVisit, fates_alone, styleFates, List.map_cons, List.map_nil]
  rw [← List.map_eq_flatMap]

theorem fates_localeVisit (device : String) (member : String × Json) :
    (localeVisit device member).map Visit.fate = localeFates device [member] := by
  unfold localeVisit
  split
  case h_1 children h =>
      simp [localeFates, h, fates_styleVisits]
  case h_2 => exact fates_alone _

theorem fates_localeVisits (device : String) (members : List (String × Json)) :
    (spread (localeVisit device) members).map Visit.fate = localeFates device members := by
  simp only [fates_spread, fates_localeVisit, localeFates, List.flatMap_cons, List.flatMap_nil,
    List.append_nil]

theorem fates_deviceVisit (member : String × Json) :
    (deviceVisit member).map Visit.fate = fontFates [member] := by
  obtain ⟨device, value⟩ := member
  cases value with
  | object locales => simp [deviceVisit, fontFates, fates_localeVisits]
  | _ => exact fates_alone _

theorem fates_deviceVisits (members : List (String × Json)) :
    (spread deviceVisit members).map Visit.fate = fontFates members := by
  simp only [fates_spread, fates_deviceVisit, fontFates, List.flatMap_cons, List.flatMap_nil,
    List.append_nil]

/-- The visit has the fates of the reader, in their order. -/
theorem fates_visits (sections : Entries Json) :
    (visits sections).map Visit.fate = fates sections := by
  simp only [visits, sectionVisit, List.map_append, fates_under, fates_colorVisit.2,
    fates_deviceVisits, fates_gradientVisit.2, fates]

end Fates

section Dropped

theorem mem_droppedOf_iff {visits : List Visit} {address : List String} :
    address ∈ droppedOf visits ↔
      ∃ visit ∈ visits, visit.isDropped = true ∧ visit.address = address := by
  simp [droppedOf, and_assoc]

theorem droppedOf_entered_cons (visits : List Visit) :
    droppedOf (⟨[], .entered⟩ :: visits) = droppedOf visits := rfl

@[simp] theorem droppedOf_append (first second : List Visit) :
    droppedOf (first ++ second) = droppedOf first ++ droppedOf second := by
  simp [droppedOf]

theorem nil_notMem_droppedOf_spread (visit : String × Json → List Visit)
    (members : List (String × Json)) : [] ∉ droppedOf (spread visit members) := by
  intro mem
  obtain ⟨found, listed, _, at_address⟩ := mem_droppedOf_iff.mp mem
  obtain ⟨member, _, listed⟩ := List.mem_flatMap.mp listed
  obtain ⟨inner, _, rfl⟩ := List.mem_map.mp listed
  cases at_address

/-- An entered node is not dropped itself. -/
theorem nil_notMem_droppedOf_entered (visit : String × Json → List Visit)
    (members : List (String × Json)) :
    [] ∉ droppedOf (⟨[], .entered⟩ :: spread visit members) := by
  rw [droppedOf_entered_cons]
  exact nil_notMem_droppedOf_spread visit members

/-- A node that is not entered has no nodes below it. -/
theorem eq_nil_of_mem_droppedOf_alone {fates : List Fate} {address : List String}
    (mem : address ∈ droppedOf (alone fates)) : address = [] := by
  obtain ⟨visit, listed, _, rfl⟩ := mem_droppedOf_iff.mp mem
  obtain ⟨fate, _, rfl⟩ := List.mem_map.mp listed
  rfl

theorem cons_mem_droppedOf_under {name key : String} {rest : List String}
    {visits : List Visit} (mem : key :: rest ∈ droppedOf (visits.map (Visit.under name))) :
    key = name ∧ rest ∈ droppedOf visits := by
  obtain ⟨visit, listed, dropped, at_address⟩ := mem_droppedOf_iff.mp mem
  obtain ⟨inner, own, rfl⟩ := List.mem_map.mp listed
  obtain ⟨rfl, rfl⟩ := List.cons.inj at_address
  exact ⟨rfl, mem_droppedOf_iff.mpr ⟨inner, own, dropped, rfl⟩⟩

/-- Where names are distinct, the address of a dropped node leads through its own member. -/
theorem mem_droppedOf_member {visit : String × Json → List Visit}
    {members : List (String × Json)} (nodup : (members.map Prod.fst).Nodup)
    {member : String × Json} (own : member ∈ members) {rest : List String}
    (mem : member.1 :: rest ∈ droppedOf (spread visit members)) :
    rest ∈ droppedOf (visit member) := by
  obtain ⟨found, listed, dropped, at_address⟩ := mem_droppedOf_iff.mp mem
  obtain ⟨other, here, listed⟩ := List.mem_flatMap.mp listed
  have below : member.1 :: rest ∈ droppedOf ((visit other).map (Visit.under other.1)) :=
    mem_droppedOf_iff.mpr ⟨found, listed, dropped, at_address⟩
  obtain ⟨same, inside⟩ := cons_mem_droppedOf_under below
  have equal : member = other := List.inj_on_of_nodup_map nodup own here same
  exact equal ▸ inside

end Dropped

end DesignTokens.Export
