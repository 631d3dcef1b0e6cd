import DesignTokens.Proofs.Export.ColorOrder
import DesignTokens.Proofs.Export.FoundStyles
import DesignTokens.Proofs.Export.Visits
import DesignTokens.Proofs.Json.Deletion

/-!
# Deleting dropped nodes

A node that the reader visits, but neither keeps nor enters, leaves no trace in the model:
the export without it is read as the same model, in the same order on every level. The same
holds for any number of such nodes that are deleted at once.

## Implementation notes

A group stays a group when members are deleted from it, because a leaf needs two members. The
other kept nodes have no visited nodes below them and stay as they are.

-/

namespace DesignTokens.Export

open Json (prune pruneMembers belowMember)

variable {doomed : List String → Bool}

/-- An export without the members at some addresses. -/
def without (addresses : List (List String)) (sections : Entries Json) : Entries Json :=
  pruneMembers (fun address => addresses.contains address) sections

/-- Only nodes that the visit drops are doomed. -/
def DoomsDropped (doomed : List String → Bool) (visits : List Visit) : Prop :=
  ∀ address, doomed address = true → address ∈ droppedOf visits

section Nodes

theorem prune_eq_string {value : Json} {s : String} (h : prune doomed value = .string s) :
    value = .string s := by
  cases value with
  | object members => rw [Json.prune_object] at h; cases h
  | _ => rwa [Json.prune_of_no_object (by simp)] at h

/-- A group is still a group when members are deleted. -/
theorem ofMembers_pruneMembers {members : List (String × Json)}
    (h : Node.ofMembers members = .group members) :
    Node.ofMembers (pruneMembers doomed members) = .group (pruneMembers doomed members) := by
  have untagged : Node.tagged? members = none := by
    unfold Node.ofMembers at h
    split at h
    case h_1 => exact absurd h (Node.ofLeaf_ne_group _ _ _)
    case h_2 none => exact none
  have still : Node.tagged? (pruneMembers doomed members) = none := by
    unfold Node.tagged?
    split
    case h_1 tag payload tagged valued =>
        rw [Json.get?_pruneMembers] at tagged valued
        simp only [Option.ite_none_left_eq_some, Option.map_eq_some_iff] at tagged valued
        obtain ⟨_, kind, named, text⟩ := tagged
        obtain ⟨_, own, given, _⟩ := valued
        rw [prune_eq_string text] at named
        rw [Node.tagged?, named, given] at untagged
        cases untagged
    case h_2 => rfl
  rw [Node.ofMembers, still]

theorem ofJson_prune_of_group {members : List (String × Json)}
    (h : Node.ofJson (.object members) = .group members) :
    Node.ofJson (prune doomed (.object members)) = .group (pruneMembers doomed members) := by
  rw [Json.prune_object]
  exact ofMembers_pruneMembers h

/-- Below a node that is not entered nothing is doomed. -/
theorem prune_eq_self_of_alone {fates : List Fate} (dooms : DoomsDropped doomed (alone fates))
    (value : Json) : prune doomed value = value := by
  apply Json.prune_eq_self
  intro name rest
  by_contra gone
  rw [Bool.not_eq_false] at gone
  exact absurd (eq_nil_of_mem_droppedOf_alone (dooms _ gone)) (List.cons_ne_nil _ _)

/-- What is doomed below an entered node is dropped by the visit of a member. -/
theorem DoomsDropped.member {visit : String × Json → List Visit}
    {members : List (String × Json)}
    (dooms : DoomsDropped doomed (⟨[], .entered⟩ :: spread visit members))
    (nodup : (members.map Prod.fst).Nodup) {member : String × Json} (own : member ∈ members) :
    DoomsDropped (belowMember member.1 doomed) (visit member) := fun _ gone =>
  mem_droppedOf_member nodup own (dooms _ gone)

end Nodes

/-- An object that is not a group of its own members is no group. -/
theorem no_group_of_ne {members : List (String × Json)}
    (h : Node.ofJson (.object members) ≠ .group members) :
    ∀ children, Node.ofJson (.object members) ≠ .group children := by
  intro children kind
  have same : children = members := Node.members_eq_of_group kind
  exact h (same ▸ kind)

section Colors

theorem nodesInto_eq_foldl (parent : String) (result : Tree String)
    (members : List (String × Json)) :
    nodesInto parent result members =
      members.foldl
        (fun result member => nodeInto (Key.joinPath parent member.1) result member.2) result := by
  induction members generalizing result with
  | nil => rw [nodesInto, List.foldl_nil]
  | cons member rest ih => rw [nodesInto, ih, List.foldl_cons]

/-- A dropped node of the color section puts nothing into the tree. -/
theorem nodeInto_of_dropped {path : String} {value : Json}
    (dropped : [] ∈ droppedOf (colorVisit path value)) (result : Tree String) :
    nodeInto path result value = result := by
  cases value with
  | object members =>
      cases kind : Node.ofMembers members with
      | group children =>
          obtain rfl := Node.members_eq_of_group kind
          rw [colorVisit_of_group kind, colorVisits_eq_spread] at dropped
          exact absurd dropped (nil_notMem_droppedOf_entered _ _)
      | color value =>
          simp only [nodeInto, kind]
          cases named : Key.segments path with
          | nil => rfl
          | cons first more =>
              simp [colorVisit, kind, colorFate, named, alone, droppedOf, Visit.isDropped,
                Fate.notice?] at dropped
      | _ => simp [nodeInto, kind]
  | _ => simp [nodeInto]

theorem nodeInto_prune {value : Json} (distinct : value.Distinct) {path : String}
    (dooms : DoomsDropped doomed (colorVisit path value))
    (result : Tree String) :
    nodeInto path result (prune doomed value) = nodeInto path result value := by
  induction value using Json.partInduction generalizing doomed path result with
  | object members ih =>
      by_cases h : Node.ofJson (.object members) = .group members
      · rw [colorVisit_of_group h, colorVisits_eq_spread] at dooms
        have nodup : (members.map Prod.fst).Nodup := distinct.self
        rw [nodeInto_of_group h, Json.prune_object, nodeInto_of_group (ofMembers_pruneMembers h)]
        congr 1
        rw [colors, colors, nodesInto_eq_foldl, nodesInto_eq_foldl]
        apply Json.foldl_pruneMembers
        · intro member mem gone
          exact nodeInto_of_dropped (dooms.member nodup mem [] gone)
        · intro member mem _
          exact ih member mem (distinct.member member mem) (dooms.member nodup mem)
      · rw [colorVisit_of_no_group (no_group_of_ne h)] at dooms
        rw [prune_eq_self_of_alone dooms]
  | _ => rw [Json.prune_of_no_object (by simp)]

end Colors

section Gradients

theorem gradientsAt_of_group {path : String} {members : List (String × Json)}
    (h : Node.ofJson (.object members) = .group members) :
    gradientsAt path (.object members) = gradientsBelow path members := by
  have h : Node.ofMembers members = .group members := h
  rw [gradientsAt, h]

theorem foldl_gradientsBelow (parent : String) (members : List (String × Json))
    (result : Entries (Entries Gradient)) :
    (gradientsBelow parent members).foldl putGradient result =
      members.foldl (fun result member =>
        (gradientsAt (Key.joinPath parent member.1) member.2).foldl putGradient result) result := by
  induction members generalizing result with
  | nil => rw [gradientsBelow, List.foldl_nil, List.foldl_nil]
  | cons member rest ih => rw [gradientsBelow, List.foldl_append, ih, List.foldl_cons]

/-- A dropped node of the gradient section puts nothing into a category. -/
theorem foldl_gradientsAt_of_dropped {path : String} {value : Json}
    (dropped : [] ∈ droppedOf (gradientVisit path value))
    (result : Entries (Entries Gradient)) :
    (gradientsAt path value).foldl putGradient result = result := by
  cases value with
  | object members =>
      cases kind : Node.ofMembers members with
      | group children =>
          obtain rfl := Node.members_eq_of_group kind
          rw [gradientVisit_of_group kind, gradientVisits_eq_spread] at dropped
          exact absurd dropped (nil_notMem_droppedOf_entered _ _)
      | gradient token =>
          cases named : Key.segments path with
          | nil => simp [gradientsAt, kind, putGradient, categoryAndName?, named]
          | cons first more =>
              simp [gradientVisit, kind, gradientFate, named, alone, droppedOf, Visit.isDropped,
                Fate.notice?] at dropped
      | _ => simp [gradientsAt, kind]
  | _ => simp [gradientsAt]

theorem foldl_gradientsAt_prune {value : Json} (distinct : value.Distinct) {path : String}
    (dooms : DoomsDropped doomed (gradientVisit path value))
    (result : Entries (Entries Gradient)) :
    (gradientsAt path (prune doomed value)).foldl putGradient result =
      (gradientsAt path value).foldl putGradient result := by
  induction value using Json.partInduction generalizing doomed path result with
  | object members ih =>
      by_cases h : Node.ofJson (.object members) = .group members
      · rw [gradientVisit_of_group h, gradientVisits_eq_spread] at dooms
        have nodup : (members.map Prod.fst).Nodup := distinct.self
        rw [gradientsAt_of_group h, Json.prune_object,
          gradientsAt_of_group (ofMembers_pruneMembers h), foldl_gradientsBelow,
          foldl_gradientsBelow]
        apply Json.foldl_pruneMembers
        · intro member mem gone
          exact foldl_gradientsAt_of_dropped (dooms.member nodup mem [] gone)
        · intro member mem _
          exact ih member mem (distinct.member member mem) (dooms.member nodup mem)
      · rw [gradientVisit_of_no_group (no_group_of_ne h)] at dooms
        rw [prune_eq_self_of_alone dooms]
  | _ => rw [Json.prune_of_no_object (by simp)]

end Gradients

section Styles

/-- A dropped node at the place of a style is none. -/
theorem no_style_of_dropped {device locale : String} {member : String × Json}
    (dropped : [] ∈ droppedOf (styleVisit device locale member)) :
    ∀ style, Node.ofJson member.2 ≠ .style style := by
  intro style kind
  simp [styleVisit, styleFates, kind, alone, droppedOf, Visit.isDropped, Fate.notice?] at dropped

theorem stylesInto_pruneMembers {device locale : String} {members : List (String × Json)}
    (dooms : ∀ member ∈ members,
      DoomsDropped (belowMember member.1 doomed) (styleVisit device locale member))
    (styles : Entries TextStyle) :
    stylesInto styles (pruneMembers doomed members) = stylesInto styles members := by
  apply Json.foldl_pruneMembers
  · rintro ⟨name, value⟩ mem gone state
    have none := no_style_of_dropped (dooms _ mem [] gone)
    cases kind : Node.ofJson value with
    | style token => exact absurd kind (none token)
    | _ => simp only [kind]
  · rintro ⟨name, value⟩ mem _ state
    rw [prune_eq_self_of_alone (dooms _ mem)]

/-- A dropped node at the place of a locale puts nothing into the locales. -/
theorem putLocale_of_dropped {device : String} {member : String × Json}
    (dropped : [] ∈ droppedOf (localeVisit device member))
    (locales : Entries (Entries TextStyle)) :
    putLocale locales member.1 member.2 = locales := by
  cases kind : Node.ofJson member.2 with
  | group children =>
      rw [localeVisit, kind] at dropped
      exact absurd dropped (nil_notMem_droppedOf_entered _ _)
  | style token =>
      simp [localeVisit, localeFates, kind, alone, droppedOf, Visit.isDropped, Fate.notice?]
        at dropped
  | _ => rw [putLocale, kind]

theorem putLocale_prune {device : String} {member : String × Json}
    (distinct : member.2.Distinct)
    (dooms : DoomsDropped doomed (localeVisit device member))
    (locales : Entries (Entries TextStyle)) :
    putLocale locales member.1 (prune doomed member.2) =
      putLocale locales member.1 member.2 := by
  cases kind : Node.ofJson member.2 with
  | group children =>
      have object := eq_object_of_ofJson_eq_group kind
      rw [localeVisit, kind] at dooms
      rw [object] at kind distinct ⊢
      have same : ∀ styles, stylesInto styles (pruneMembers doomed children) =
          stylesInto styles children :=
        stylesInto_pruneMembers fun inner mem => dooms.member distinct.self mem
      rw [putLocale, putLocale, ofJson_prune_of_group kind, kind]
      simp only [same]
  | _ =>
      have alone : DoomsDropped doomed (alone (localeFates device [member])) := by
        simpa only [localeVisit, kind] using dooms
      rw [prune_eq_self_of_alone alone]

theorem locales_pruneMembers {device : String} {members : List (String × Json)}
    (distinct : ∀ member ∈ members, member.2.Distinct)
    (dooms : ∀ member ∈ members,
      DoomsDropped (belowMember member.1 doomed) (localeVisit device member)) :
    locales (pruneMembers doomed members) = locales members := by
  rw [locales_eq_filter_foldl, locales_eq_filter_foldl]
  congr 1
  apply Json.foldl_pruneMembers
  · intro member mem gone
    exact putLocale_of_dropped (dooms member mem [] gone)
  · intro member mem _
    exact putLocale_prune (distinct member mem) (dooms member mem)

theorem typography_pruneMembers {members : List (String × Json)}
    (distinct : ∀ member ∈ members, member.2.Distinct)
    (dooms : ∀ member ∈ members,
      DoomsDropped (belowMember member.1 doomed) (deviceVisit member)) :
    typography (pruneMembers doomed members) = typography members := by
  apply Json.filterMap_pruneMembers
  · rintro ⟨device, value⟩ mem gone
    have dropped := dooms _ mem [] gone
    cases value with
    | object children => exact absurd dropped (nil_notMem_droppedOf_entered _ _)
    | _ => rfl
  · rintro ⟨device, value⟩ mem _
    cases value with
    | object children =>
        have inner := dooms _ mem
        have own := distinct _ mem
        rw [Json.prune_object]
        simp only
        rw [locales_pruneMembers own.member fun member here => inner.member own.self here]
    | _ => rw [Json.prune_of_no_object (by simp)]

end Styles

section Sections

theorem colors_pruneMembers {nodes : List (String × Json)} (distinct : (Json.object nodes).Distinct)
    {parent : String} (dooms : DoomsDropped doomed (colorVisits parent nodes)) :
    colors parent (pruneMembers doomed nodes) = colors parent nodes := by
  rw [colorVisits_eq_spread] at dooms
  rw [colors, colors, nodesInto_eq_foldl, nodesInto_eq_foldl]
  apply Json.foldl_pruneMembers
  · intro member mem gone
    exact nodeInto_of_dropped (dooms.member distinct.self mem [] gone)
  · intro member mem _
    exact nodeInto_prune (distinct.member member mem) (dooms.member distinct.self mem)

theorem gradients_pruneMembers {nodes : List (String × Json)}
    (distinct : (Json.object nodes).Distinct)
    (dooms : DoomsDropped doomed (gradientVisits "" nodes)) :
    gradients (pruneMembers doomed nodes) = gradients nodes := by
  rw [gradientVisits_eq_spread] at dooms
  rw [gradients, gradients, foldl_gradientsBelow, foldl_gradientsBelow]
  apply Json.foldl_pruneMembers
  · intro member mem gone
    exact foldl_gradientsAt_of_dropped (dooms.member distinct.self mem [] gone)
  · intro member mem _
    exact foldl_gradientsAt_prune (distinct.member member mem) (dooms.member distinct.self mem)

variable {sections : Entries Json} {name : String}

theorem members?_prune (value : Json) :
    (prune doomed value).members? = value.members?.map (pruneMembers doomed) := by
  cases value with
  | object members => rw [Json.prune_object]; rfl
  | _ => rw [Json.prune_of_no_object (by simp)]; rfl

/-- A section that is not deleted itself is pruned. -/
theorem section?_pruneMembers (spared : doomed [name] = false) : section? name
    (pruneMembers doomed sections) =
      (section? name sections).map (pruneMembers (belowMember name doomed)) := by
  rw [section?, section?, Json.get?_pruneMembers, spared, if_neg Bool.false_ne_true]
  cases Entries.get? name sections with
  | none => rfl
  | some value => exact members?_prune value

theorem getD_section?_pruneMembers (spared : doomed [name] = false) :
    (section? name (pruneMembers doomed sections)).getD [] =
      pruneMembers (belowMember name doomed) ((section? name sections).getD []) := by
  rw [section?_pruneMembers spared]
  cases section? name sections with
  | none => rfl
  | some nodes => rfl

/-- The nodes of a section have distinct names as the export has. -/
theorem distinct_section (distinct : (Json.object sections).Distinct) (name : String) :
    (Json.object ((section? name sections).getD [])).Distinct := by
  cases found : section? name sections with
  | none => exact .object [] List.nodup_nil fun _ mem => absurd mem List.not_mem_nil
  | some nodes =>
      obtain ⟨value, named, object⟩ := Option.bind_eq_some_iff.mp found
      have whole := distinct.member _ (Entries.mem_of_get?_eq_some named)
      cases value with
      | object members => exact Option.some.inj object ▸ whole
      | _ => cases object

/-- The dropped addresses of an export lead through the section that the node stands in. -/
theorem mem_droppedOf_visits {rest : List String}
    (mem : name :: rest ∈ droppedOf (visits sections)) :
    (name = "color" ∧ rest ∈ droppedOf (colorVisits "" ((section? "color" sections).getD []))) ∨
    (name = "font" ∧ rest ∈ droppedOf (spread deviceVisit ((section? "font" sections).getD []))) ∨
    (name = "gradient" ∧
      rest ∈ droppedOf (gradientVisits "" ((section? "gradient" sections).getD []))) := by
  simp only [visits, droppedOf_append, List.mem_append] at mem
  rcases mem with (mem | mem) | mem
  · exact Or.inl (cons_mem_droppedOf_under mem)
  · exact Or.inr (Or.inl (cons_mem_droppedOf_under mem))
  · exact Or.inr (Or.inr (cons_mem_droppedOf_under mem))

/-- The sections keep their names, and what is doomed in one of them is dropped by its visit. -/
theorem model_pruneMembers (distinct : (Json.object sections).Distinct)
    (dooms : DoomsDropped doomed (visits sections)) :
    model (pruneMembers doomed sections) = model sections := by
  have split := fun name rest (gone : doomed (name :: rest) = true) =>
    mem_droppedOf_visits (dooms _ gone)
  have spared : ∀ name, doomed [name] = false := by
    intro name
    by_contra gone
    rw [Bool.not_eq_false] at gone
    rcases split _ _ gone with ⟨_, mem⟩ | ⟨_, mem⟩ | ⟨_, mem⟩
    · exact nil_notMem_droppedOf_spread _ _ (colorVisits_eq_spread "" _ ▸ mem)
    · exact nil_notMem_droppedOf_spread _ _ mem
    · exact nil_notMem_droppedOf_spread _ _ (gradientVisits_eq_spread "" _ ▸ mem)
  have colors_same : colors "" ((section? "color" (pruneMembers doomed sections)).getD []) =
      colors "" ((section? "color" sections).getD []) := by
    rw [getD_section?_pruneMembers (spared _)]
    apply colors_pruneMembers (distinct_section distinct _)
    intro rest gone
    simpa using split _ _ gone
  have typography_same : typography ((section? "font" (pruneMembers doomed sections)).getD []) =
      typography ((section? "font" sections).getD []) := by
    have whole := distinct_section distinct "font"
    rw [getD_section?_pruneMembers (spared _)]
    apply typography_pruneMembers whole.member
    intro member mem address gone
    have inside := split _ _ gone
    exact mem_droppedOf_member whole.self mem (by simpa using inside)
  have gradients_same : (section? "gradient" (pruneMembers doomed sections)).map gradients =
      (section? "gradient" sections).map gradients := by
    have whole := distinct_section distinct "gradient"
    rw [section?_pruneMembers (spared _)]
    cases found : section? "gradient" sections with
    | none => rfl
    | some nodes =>
        rw [found] at whole
        have same : gradients (pruneMembers (belowMember "gradient" doomed) nodes) =
            gradients nodes := by
          apply gradients_pruneMembers whole
          intro rest gone
          simpa [found] using split _ _ gone
        exact congrArg some same
  rw [model, model, colors_same, typography_same, gradients_same]

/-- Nodes that the reader visits, but neither keeps nor enters, may be deleted, one of them or
any number of them at once: the export is read as the same model, in the same order on every
level. -/
theorem model_without_dropped (sections : Entries Json)
    (distinct : (Json.object sections).Distinct) (addresses : List (List String))
    (dropped : addresses ⊆ droppedOf (visits sections)) :
    model (without addresses sections) = model sections := by
  apply model_pruneMembers distinct
  intro address gone
  exact dropped (List.contains_iff_mem.mp gone)

/-- A style leaf of sixteen pixels. -/
def bodyStyle : Json :=
  leafNode "custom-fontStyle" (.object [("fontFamily", .string "Arial"),
    ("fontSize", .number (.integer 16)), ("fontWeight", .number (.integer 400)),
    ("lineHeight", .number (.integer 24))])

/-- Sections with nodes that cannot be used at every place. A group has a name of each kind
that a leaf needs, but no textual type. -/
def litteredSections : Entries Json := [
  ("version", .number (.integer 2)),
  ("color", .object [
    ("brand", .object [
      ("type", .number (.integer 1)),
      ("primary", leafNode "color" (.string "#3366FFff")),
      ("value", .array [])]),
    ("%", leafNode "color" (.string "#000000")),
    ("body", bodyStyle)]),
  ("font", .object [
    ("web", .null),
    ("mobile", .object [
      ("kr", .object [
        ("heading", .object [("deep", bodyStyle)]),
        ("body", bodyStyle)]),
      ("note", leafNode "color" (.string "#FFFFFF"))])]),
  ("gradient", .object [("sunset", leafNode "custom-gradient" (.string "red"))])]

theorem model_without_dropped_litteredSections :
    (Json.object litteredSections).Distinct ∧
    droppedOf (visits litteredSections) = [
      ["color", "brand", "type"], ["color", "brand", "value"], ["color", "%"], ["color", "body"],
      ["font", "web"], ["font", "mobile", "kr", "heading"], ["font", "mobile", "note"],
      ["gradient", "sunset"]] ∧
    model (without [["color", "brand", "value"]] litteredSections) = model litteredSections ∧
    model (without (droppedOf (visits litteredSections)) litteredSections) =
      model litteredSections := by
  have distinct : (Json.object litteredSections).Distinct := by
    simp [Json.Distinct, Json.NamesDistinct, litteredSections, bodyStyle, leafNode]
  have listed : droppedOf (visits litteredSections) = [
      ["color", "brand", "type"], ["color", "brand", "value"], ["color", "%"], ["color", "body"],
      ["font", "web"], ["font", "mobile", "kr", "heading"], ["font", "mobile", "note"],
      ["gradient", "sunset"]] := by
    decide
  refine ⟨distinct, listed, model_without_dropped _ distinct _ ?_,
    model_without_dropped _ distinct _ (List.Subset.refl _)⟩
  rw [listed]
  decide

end Sections

end DesignTokens.Export
