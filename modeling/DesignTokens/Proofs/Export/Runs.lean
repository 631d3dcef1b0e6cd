import DesignTokens.Proofs.Export.DroppedNodes
import DesignTokens.Proofs.Export.SecondChecks

/-!
# Runs through the sections

A run goes through the members of an object in order, one step for each, and a step does one of
three things: it stores a token in what has been read so far, it enters the members of a group, or
it gives a notice and leaves what has been read as it is. Every section has exactly one run, which
ends with what is read from the section and visits what the reader visits.

## Implementation notes

The values, the fates and the visit of a section are separate recursions of the reader. Here
storing and reporting are said side by side, with one rule for each.

-/

namespace DesignTokens.Export

variable {σ : Type}

/-- A run through the members of an object below a parent, with what is read before it and after
it, and with the nodes that are visited. -/
inductive Run (step : String → String × Json → σ → σ → List Visit → Prop) :
    List (String × Json) → String → σ → σ → List Visit → Prop
  | done {parent : String} {read : σ} : Run step [] parent read read []
  | next {parent : String} {member : String × Json} {rest : List (String × Json)}
      {before between after : σ} {own others : List Visit}
      (first : step parent member before between own)
      (more : Run step rest parent between after others) :
      Run step (member :: rest) parent before after (own.map (Visit.under member.1) ++ others)

/-- A notice about a node at a path of the color section from which no color is stored. -/
inductive ColorRefusal (path : String) : Node → Notice → Prop
  | nameless {value : String} (empty : Key.segments path = []) :
      ColorRefusal path (.color value) (.colorWithoutName path)
  | style {token : TextStyle} : ColorRefusal path (.style token) (.notAColor path)
  | gradient {token : Gradient} : ColorRefusal path (.gradient token) (.notAColor path)
  | skipped {reason : SkipReason} :
      ColorRefusal path (.skipped reason) (.colorSkipped path reason)

/-- A step of the color section. A group is read on its own and merged into what has been read. -/
inductive ColorStep : String → String × Json → Tree String → Tree String → List Visit → Prop
  | kept {parent name color first : String} {value : Json} {more : List String}
      {read : Tree String} (leaf : Node.ofJson value = .color color)
      (place : Key.segments (Key.joinPath parent name) = first :: more) :
      ColorStep parent (name, value) read (read.setAt first more (.leaf color)) [⟨[], .kept⟩]
  | entered {parent name : String} {value : Json} {members : List (String × Json)}
      {read subtree : Tree String} {below : List Visit} (group : Node.ofJson value = .group members)
      (inside : Run ColorStep members (Key.joinPath parent name) .nil subtree below) :
      ColorStep parent (name, value) read (read.merge subtree) (⟨[], .entered⟩ :: below)
  | reported {parent name : String} {value : Json} {read : Tree String} {notice : Notice}
      (refused : ColorRefusal (Key.joinPath parent name) (Node.ofJson value) notice) :
      ColorStep parent (name, value) read read [⟨[], .reported notice⟩]

/-- A notice about a node at a path of the gradient section from which no gradient is stored. -/
inductive GradientRefusal (path : String) : Node → Notice → Prop
  | nameless {token : Gradient} (empty : Key.segments path = []) :
      GradientRefusal path (.gradient token) (.gradientWithoutName path)
  | color {value : String} : GradientRefusal path (.color value) (.gradientSkipped path)
  | style {token : TextStyle} : GradientRefusal path (.style token) (.gradientSkipped path)
  | skipped {reason : SkipReason} : GradientRefusal path (.skipped reason) (.gradientSkipped path)

/-- A step of the gradient section. The gradients of a group go to the same categories. -/
inductive GradientStep : String → String × Json → Entries (Entries Gradient) →
    Entries (Entries Gradient) → List Visit → Prop
  | kept {parent name category key : String} {value : Json} {token : Gradient}
      {read : Entries (Entries Gradient)} (leaf : Node.ofJson value = .gradient token)
      (place : categoryAndName? (Key.joinPath parent name) = some (category, key)) :
      GradientStep parent (name, value) read
        (read.update category [] fun entries => entries.put key token) [⟨[], .kept⟩]
  | entered {parent name : String} {value : Json} {members : List (String × Json)}
      {before after : Entries (Entries Gradient)} {below : List Visit}
      (group : Node.ofJson value = .group members)
      (inside : Run GradientStep members (Key.joinPath parent name) before after below) :
      GradientStep parent (name, value) before after (⟨[], .entered⟩ :: below)
  | reported {parent name : String} {value : Json} {read : Entries (Entries Gradient)}
      {notice : Notice}
      (refused : GradientRefusal (Key.joinPath parent name) (Node.ofJson value) notice) :
      GradientStep parent (name, value) read read [⟨[], .reported notice⟩]

/-- A step through the children of a locale of a device. -/
inductive StyleStep (device : String) :
    String → String × Json → Entries TextStyle → Entries TextStyle → List Visit → Prop
  | kept {locale name : String} {value : Json} {token : TextStyle} {read : Entries TextStyle}
      (leaf : Node.ofJson value = .style token) :
      StyleStep device locale (name, value) read (read.put name token) [⟨[], .kept⟩]
  | reported {locale name : String} {value : Json} {read : Entries TextStyle}
      (refused : ∀ token, Node.ofJson value ≠ .style token) :
      StyleStep device locale (name, value) read read
        [⟨[], .reported (.styleSkipped device locale name)⟩]

/-- A step through the children of a device. A style among them goes to the default locale. -/
inductive LocaleStep : String → String × Json → Entries (Entries TextStyle) →
    Entries (Entries TextStyle) → List Visit → Prop
  | kept {device name : String} {value : Json} {token : TextStyle}
      {read : Entries (Entries TextStyle)} (leaf : Node.ofJson value = .style token) :
      LocaleStep device (name, value) read
        (read.update defaultLocale [] fun styles => styles.put name token) [⟨[], .kept⟩]
  | entered {device name : String} {value : Json} {children : List (String × Json)}
      {read : Entries (Entries TextStyle)} {styles : Entries TextStyle} {below : List Visit}
      (group : Node.ofJson value = .group children)
      (inside : Run (StyleStep device) children name ((read.get? name).getD []) styles below) :
      LocaleStep device (name, value) read (read.put name styles) (⟨[], .entered⟩ :: below)
  | reported {device name : String} {value : Json} {read : Entries (Entries TextStyle)}
      (closed : ∀ children, Node.ofJson value ≠ .group children)
      (refused : ∀ token, Node.ofJson value ≠ .style token) :
      LocaleStep device (name, value) read read [⟨[], .reported (.localeSkipped device name)⟩]

/-- Devices with one more behind them. The locales without a style are left out, and so is the
device if no locale remains. -/
def withDevice (devices : Entries (Entries (Entries TextStyle))) (device : String)
    (locales : Entries (Entries TextStyle)) : Entries (Entries (Entries TextStyle)) :=
  match locales.filter fun entry => !entry.2.isEmpty with
  | [] => devices
  | found => devices ++ [(device, found)]

/-- A step through the nodes of the font section. -/
inductive DeviceStep : String → String × Json → Entries (Entries (Entries TextStyle)) →
    Entries (Entries (Entries TextStyle)) → List Visit → Prop
  | entered {parent device : String} {members : List (String × Json)}
      {read : Entries (Entries (Entries TextStyle))} {locales : Entries (Entries TextStyle)}
      {below : List Visit} (inside : Run LocaleStep members device [] locales below) :
      DeviceStep parent (device, .object members) read (withDevice read device locales)
        (⟨[], .entered⟩ :: below)
  | reported {parent device : String} {value : Json}
      {read : Entries (Entries (Entries TextStyle))}
      (refused : ∀ members, value ≠ .object members) :
      DeviceStep parent (device, value) read read [⟨[], .reported (.deviceSkipped device)⟩]

section Totality

variable {step : String → String × Json → σ → σ → List Visit → Prop} {parent : String}
  {put : σ → String × Json → σ} {visit : String × Json → List Visit} {before after : σ}
  {visits : List Visit}

/-- Where each member has one step, there is one run: it puts the members one after the other and
visits what the steps visit. -/
theorem run_iff_foldl {members : List (String × Json)}
    (each : ∀ member ∈ members, ∀ before after own,
      step parent member before after own ↔ after = put before member ∧ own = visit member) :
    Run step members parent before after visits ↔
      after = members.foldl put before ∧ visits = spread visit members := by
  induction members generalizing before visits with
  | nil =>
      constructor
      · rintro ⟨⟩
        exact ⟨rfl, rfl⟩
      · rintro ⟨rfl, rfl⟩
        exact .done
  | cons member rest ih =>
      have first := each member List.mem_cons_self
      have others : ∀ between others, Run step rest parent between after others ↔
          after = rest.foldl put between ∧ others = spread visit rest := fun _ _ =>
        ih fun member mem => each member (List.mem_cons_of_mem _ mem)
      constructor
      · intro run
        cases run with
        | next own more =>
            obtain ⟨rfl, rfl⟩ := (first _ _ _).mp own
            obtain ⟨rfl, rfl⟩ := (others _ _).mp more
            exact ⟨rfl, rfl⟩
      · rintro ⟨rfl, rfl⟩
        exact .next ((first _ _ _).mpr ⟨rfl, rfl⟩) ((others _ _).mpr ⟨rfl, rfl⟩)

end Totality

section Colors

variable {parent name path : String} {value : Json} {members : List (String × Json)}
  {before after : Tree String} {own visits : List Visit} {notice : Notice}

/-- A node of the color section holds a color with a place, or is a group, or is refused. -/
theorem color_trichotomy (path : String) (node : Node) :
    (∃ color first more, node = .color color ∧ Key.segments path = first :: more) ∨
      (∃ members, node = .group members) ∨ ∃ notice, ColorRefusal path node notice := by
  cases node with
  | color color =>
      cases place : Key.segments path with
      | nil => exact .inr (.inr ⟨_, .nameless place⟩)
      | cons first more => exact .inl ⟨color, first, more, rfl, rfl⟩
  | group members => exact .inr (.inl ⟨members, rfl⟩)
  | style token => exact .inr (.inr ⟨_, .style⟩)
  | gradient token => exact .inr (.inr ⟨_, .gradient⟩)
  | skipped reason => exact .inr (.inr ⟨_, .skipped⟩)

theorem color_of_kept (before : Tree String) {color first : String} {more : List String}
    (leaf : Node.ofJson value = .color color) (place : Key.segments path = first :: more) :
    nodeInto path before value = before.setAt first more (.leaf color) ∧
      colorVisit path value = [⟨[], .kept⟩] := by
  cases value with
  | object members =>
      have kind : Node.ofMembers members = .color color := leaf
      simp [nodeInto, colorVisit, colorFate, kind, place, alone]
  | _ => cases leaf

theorem color_of_entered (before : Tree String) (group : Node.ofJson value = .group members) :
    nodeInto path before value = before.merge (nodesInto path .nil members) ∧
      colorVisit path value = ⟨[], .entered⟩ :: colorVisits path members := by
  obtain rfl := eq_object_of_ofJson_eq_group group
  exact ⟨nodeInto_of_group group before, colorVisit_of_group group⟩

theorem color_of_reported (before : Tree String)
    (refused : ColorRefusal path (Node.ofJson value) notice) :
    nodeInto path before value = before ∧ colorVisit path value = [⟨[], .reported notice⟩] := by
  cases value with
  | object members =>
      change ColorRefusal path (Node.ofMembers members) notice at refused
      cases kind : Node.ofMembers members with
      | group children =>
          rw [kind] at refused
          cases refused
      | color color =>
          rw [kind] at refused
          cases refused with
          | nameless empty => simp [nodeInto, colorVisit, colorFate, kind, empty, alone]
      | _ =>
          rw [kind] at refused
          cases refused
          simp [nodeInto, colorVisit, colorFate, kind, alone]
  | _ =>
      cases refused
      simp [nodeInto, colorVisit, colorFate, alone]

/-- A step reads what the reader reads at the node, if a run through the members of a group does
so. -/
theorem colorStep_iff_of_inside
    (inside : ∀ members, Node.ofJson value = .group members → ∀ subtree below,
      Run ColorStep members (Key.joinPath parent name) .nil subtree below ↔
        subtree = nodesInto (Key.joinPath parent name) .nil members ∧
          below = colorVisits (Key.joinPath parent name) members) :
    ColorStep parent (name, value) before after own ↔
      after = nodeInto (Key.joinPath parent name) before value ∧
        own = colorVisit (Key.joinPath parent name) value := by
  constructor
  · intro step
    cases step with
    | kept leaf place =>
        obtain ⟨reads, visited⟩ := color_of_kept before leaf place
        exact ⟨reads.symm, visited.symm⟩
    | entered group run =>
        obtain ⟨reads, visited⟩ := color_of_entered before group
        obtain ⟨rfl, rfl⟩ := (inside _ group _ _).mp run
        exact ⟨reads.symm, visited.symm⟩
    | reported refused =>
        obtain ⟨reads, visited⟩ := color_of_reported before refused
        exact ⟨reads.symm, visited.symm⟩
  · rintro ⟨rfl, rfl⟩
    rcases color_trichotomy (Key.joinPath parent name) (Node.ofJson value) with
      ⟨color, first, more, leaf, place⟩ | ⟨members, group⟩ | ⟨notice, refused⟩
    · obtain ⟨reads, visited⟩ := color_of_kept before leaf place
      rw [reads, visited]
      exact .kept leaf place
    · obtain ⟨reads, visited⟩ := color_of_entered before group
      rw [reads, visited]
      exact .entered group ((inside members group _ _).mpr ⟨rfl, rfl⟩)
    · obtain ⟨reads, visited⟩ := color_of_reported before refused
      rw [reads, visited]
      exact .reported refused

theorem colorsRun_iff_of_each
    (each : ∀ member ∈ members, ∀ before after own,
      ColorStep parent member before after own ↔
        after = nodeInto (Key.joinPath parent member.1) before member.2 ∧
          own = colorVisit (Key.joinPath parent member.1) member.2) :
    Run ColorStep members parent before after visits ↔
      after = nodesInto parent before members ∧ visits = colorVisits parent members := by
  rw [nodesInto_eq_foldl, colorVisits_eq_spread]
  exact run_iff_foldl each

/-- A step of the color section reads what the reader reads at the node, and visits the same. -/
theorem colorStep_iff (value : Json) (parent name : String) (before after : Tree String)
    (own : List Visit) : ColorStep parent (name, value) before after own ↔
      after = nodeInto (Key.joinPath parent name) before value ∧
        own = colorVisit (Key.joinPath parent name) value := by
  induction value using Json.partInduction generalizing parent name before after own with
  | object members ih =>
      apply colorStep_iff_of_inside
      intro children group subtree below
      obtain rfl : children = members := Node.members_eq_of_group group
      exact colorsRun_iff_of_each fun member mem => ih member mem _ member.1
  | _ =>
      apply colorStep_iff_of_inside
      intro children group
      cases group

/-- The color section has one run. -/
theorem colorsRun_iff : Run ColorStep members parent before after visits ↔
    after = nodesInto parent before members ∧ visits = colorVisits parent members :=
  colorsRun_iff_of_each fun member _ => colorStep_iff member.2 parent member.1

end Colors

section Gradients

variable {parent name path : String} {value : Json} {members : List (String × Json)}
  {before after : Entries (Entries Gradient)} {own visits : List Visit} {notice : Notice}

theorem categoryAndName?_eq_none_iff : categoryAndName? path = none ↔ Key.segments path = [] := by
  unfold categoryAndName?
  cases Key.segments path with
  | nil => simp
  | cons first more => simp [List.getLast?_cons]

/-- A node of the gradient section holds a gradient with a place, or is a group, or is refused. -/
theorem gradient_trichotomy (path : String) (node : Node) :
    (∃ token category key, node = .gradient token ∧
        categoryAndName? path = some (category, key)) ∨
      (∃ members, node = .group members) ∨ ∃ notice, GradientRefusal path node notice := by
  cases node with
  | gradient token =>
      cases place : categoryAndName? path with
      | none => exact .inr (.inr ⟨_, .nameless (categoryAndName?_eq_none_iff.mp place)⟩)
      | some found => exact .inl ⟨token, found.1, found.2, rfl, rfl⟩
  | group members => exact .inr (.inl ⟨members, rfl⟩)
  | color color => exact .inr (.inr ⟨_, .color⟩)
  | style token => exact .inr (.inr ⟨_, .style⟩)
  | skipped reason => exact .inr (.inr ⟨_, .skipped⟩)

theorem gradient_of_kept (before : Entries (Entries Gradient)) {token : Gradient}
    {category key : String} (leaf : Node.ofJson value = .gradient token)
    (place : categoryAndName? path = some (category, key)) :
    (gradientsAt path value).foldl putGradient before =
        before.update category [] (fun entries => Entries.put key token entries) ∧
      gradientVisit path value = [⟨[], .kept⟩] := by
  have named : Key.segments path ≠ [] := by
    intro empty
    rw [categoryAndName?_eq_none_iff.mpr empty] at place
    cases place
  cases value with
  | object members =>
      have kind : Node.ofMembers members = .gradient token := leaf
      simp [gradientsAt, gradientVisit, gradientFate, kind, putGradient, place, named, alone]
  | _ => cases leaf

theorem gradient_of_entered (group : Node.ofJson value = .group members) :
    gradientsAt path value = gradientsBelow path members ∧
      gradientVisit path value = ⟨[], .entered⟩ :: gradientVisits path members := by
  obtain rfl := eq_object_of_ofJson_eq_group group
  exact ⟨gradientsAt_of_group group, gradientVisit_of_group group⟩

theorem gradient_of_reported (before : Entries (Entries Gradient))
    (refused : GradientRefusal path (Node.ofJson value) notice) :
    (gradientsAt path value).foldl putGradient before = before ∧
      gradientVisit path value = [⟨[], .reported notice⟩] := by
  cases value with
  | object members =>
      change GradientRefusal path (Node.ofMembers members) notice at refused
      cases kind : Node.ofMembers members with
      | group children =>
          rw [kind] at refused
          cases refused
      | gradient token =>
          rw [kind] at refused
          cases refused with
          | nameless empty =>
              simp [gradientsAt, gradientVisit, gradientFate, kind, putGradient,
                categoryAndName?_eq_none_iff.mpr empty, empty, alone]
      | _ =>
          rw [kind] at refused
          cases refused
          simp [gradientsAt, gradientVisit, gradientFate, kind, alone]
  | _ =>
      cases refused
      simp [gradientsAt, gradientVisit, gradientFate, alone]

/-- A step reads what the reader reads at the node, if a run through the members of a group does
so. -/
theorem gradientStep_iff_of_inside
    (inside : ∀ members, Node.ofJson value = .group members → ∀ before after below,
      Run GradientStep members (Key.joinPath parent name) before after below ↔
        after = (gradientsBelow (Key.joinPath parent name) members).foldl putGradient before ∧
          below = gradientVisits (Key.joinPath parent name) members) :
    GradientStep parent (name, value) before after own ↔
      after = (gradientsAt (Key.joinPath parent name) value).foldl putGradient before ∧
        own = gradientVisit (Key.joinPath parent name) value := by
  constructor
  · intro step
    cases step with
    | kept leaf place =>
        obtain ⟨reads, visited⟩ := gradient_of_kept before leaf place
        exact ⟨reads.symm, visited.symm⟩
    | entered group run =>
        obtain ⟨reads, visited⟩ := gradient_of_entered group
        obtain ⟨rfl, rfl⟩ := (inside _ group _ _ _).mp run
        exact ⟨by rw [reads], visited.symm⟩
    | reported refused =>
        obtain ⟨reads, visited⟩ := gradient_of_reported before refused
        exact ⟨reads.symm, visited.symm⟩
  · rintro ⟨rfl, rfl⟩
    rcases gradient_trichotomy (Key.joinPath parent name) (Node.ofJson value) with
      ⟨token, category, key, leaf, place⟩ | ⟨members, group⟩ | ⟨notice, refused⟩
    · obtain ⟨reads, visited⟩ := gradient_of_kept before leaf place
      rw [reads, visited]
      exact .kept leaf place
    · obtain ⟨reads, visited⟩ := gradient_of_entered group
      rw [reads, visited]
      exact .entered group ((inside members group _ _ _).mpr ⟨rfl, rfl⟩)
    · obtain ⟨reads, visited⟩ := gradient_of_reported before refused
      rw [reads, visited]
      exact .reported refused

theorem gradientsRun_iff_of_each
    (each : ∀ member ∈ members, ∀ before after own,
      GradientStep parent member before after own ↔
        after = (gradientsAt (Key.joinPath parent member.1) member.2).foldl putGradient before ∧
          own = gradientVisit (Key.joinPath parent member.1) member.2) :
    Run GradientStep members parent before after visits ↔
      after = (gradientsBelow parent members).foldl putGradient before ∧
        visits = gradientVisits parent members := by
  rw [foldl_gradientsBelow, gradientVisits_eq_spread]
  exact run_iff_foldl each

/-- A step of the gradient section reads what the reader reads at the node, and visits the
same. -/
theorem gradientStep_iff (value : Json) (parent name : String)
    (before after : Entries (Entries Gradient)) (own : List Visit) :
    GradientStep parent (name, value) before after own ↔
      after = (gradientsAt (Key.joinPath parent name) value).foldl putGradient before ∧
        own = gradientVisit (Key.joinPath parent name) value := by
  induction value using Json.partInduction generalizing parent name before after own with
  | object members ih =>
      apply gradientStep_iff_of_inside
      intro children group before after below
      obtain rfl : children = members := Node.members_eq_of_group group
      exact gradientsRun_iff_of_each fun member mem => ih member mem _ member.1
  | _ =>
      apply gradientStep_iff_of_inside
      intro children group
      cases group

/-- The gradient section has one run. -/
theorem gradientsRun_iff : Run GradientStep members parent before after visits ↔
    after = (gradientsBelow parent members).foldl putGradient before ∧
      visits = gradientVisits parent members :=
  gradientsRun_iff_of_each fun member _ => gradientStep_iff member.2 parent member.1

end Gradients

section Styles

variable {parent device locale : String} {member : String × Json}
  {members : List (String × Json)} {own visits : List Visit}

theorem styleStep_iff {before after : Entries TextStyle} :
    StyleStep device locale member before after own ↔
      after = stylesInto before [member] ∧ own = styleVisit device locale member := by
  obtain ⟨name, value⟩ := member
  by_cases style : ∃ token, Node.ofJson value = .style token
  · obtain ⟨token, leaf⟩ := style
    have reads : stylesInto before [(name, value)] = before.put name token :=
      stylesInto_cons_of_style leaf before name []
    have visited : styleVisit device locale (name, value) = [⟨[], .kept⟩] := by
      simp [styleVisit, styleFates, leaf, alone]
    rw [reads, visited]
    constructor
    · intro step
      cases step with
      | kept other =>
          cases leaf.symm.trans other
          exact ⟨rfl, rfl⟩
      | reported refused => exact absurd leaf (refused token)
    · rintro ⟨rfl, rfl⟩
      exact .kept leaf
  · have refused := not_exists.mp style
    have reads : stylesInto before [(name, value)] = before :=
      stylesInto_cons_of_no_style refused before name []
    have visited : styleVisit device locale (name, value) =
        [⟨[], .reported (.styleSkipped device locale name)⟩] := by
      simp [styleVisit, styleFates, alone]
    rw [reads, visited]
    constructor
    · intro step
      cases step with
      | kept leaf => exact absurd leaf (refused _)
      | reported _ => exact ⟨rfl, rfl⟩
    · rintro ⟨rfl, rfl⟩
      exact .reported refused

theorem stylesInto_eq_foldl (styles : Entries TextStyle) (members : List (String × Json)) :
    stylesInto styles members =
      members.foldl (fun styles member => stylesInto styles [member]) styles := rfl

/-- The children of a locale have one run. -/
theorem stylesRun_iff {before after : Entries TextStyle} :
    Run (StyleStep device) members locale before after visits ↔
      after = stylesInto before members ∧ visits = spread (styleVisit device locale) members := by
  rw [stylesInto_eq_foldl]
  exact run_iff_foldl fun _ _ _ _ _ => styleStep_iff

section Locales

variable {name : String} {value : Json} {before after : Entries (Entries TextStyle)}

theorem locale_of_kept (before : Entries (Entries TextStyle)) {token : TextStyle}
    (leaf : Node.ofJson value = .style token) :
    putLocale before name value =
        before.update defaultLocale [] (fun styles => Entries.put name token styles) ∧
      localeVisit device (name, value) = [⟨[], .kept⟩] := by
  simp [putLocale, localeVisit, localeFates, leaf, alone]

theorem locale_of_entered (before : Entries (Entries TextStyle))
    {children : List (String × Json)}
    (group : Node.ofJson value = .group children) :
    putLocale before name value =
        before.put name (stylesInto ((before.get? name).getD []) children) ∧
      localeVisit device (name, value) =
        ⟨[], .entered⟩ :: spread (styleVisit device name) children := by
  simp [putLocale, localeVisit, group, Entries.update]

theorem locale_of_reported (before : Entries (Entries TextStyle))
    (closed : ∀ children, Node.ofJson value ≠ .group children)
    (refused : ∀ token, Node.ofJson value ≠ .style token) :
    putLocale before name value = before ∧
      localeVisit device (name, value) = [⟨[], .reported (.localeSkipped device name)⟩] := by
  simp [putLocale, localeVisit, localeFates, alone]

theorem localeStep_iff :
    LocaleStep device (name, value) before after own ↔
      after = putLocale before name value ∧ own = localeVisit device (name, value) := by
  constructor
  · intro step
    cases step with
    | kept leaf =>
        obtain ⟨reads, visited⟩ := locale_of_kept before leaf
        exact ⟨reads.symm, visited.symm⟩
    | entered group inside =>
        obtain ⟨reads, visited⟩ := locale_of_entered before group
        obtain ⟨rfl, rfl⟩ := stylesRun_iff.mp inside
        exact ⟨reads.symm, visited.symm⟩
    | reported closed refused =>
        obtain ⟨reads, visited⟩ := locale_of_reported before closed refused
        exact ⟨reads.symm, visited.symm⟩
  · rintro ⟨rfl, rfl⟩
    by_cases group : ∃ children, Node.ofJson value = .group children
    · obtain ⟨children, group⟩ := group
      obtain ⟨reads, visited⟩ := locale_of_entered before group
      rw [reads, visited]
      exact .entered group (stylesRun_iff.mpr ⟨rfl, rfl⟩)
    · by_cases leaf : ∃ token, Node.ofJson value = .style token
      · obtain ⟨token, leaf⟩ := leaf
        obtain ⟨reads, visited⟩ := locale_of_kept before leaf
        rw [reads, visited]
        exact .kept leaf
      · have closed := not_exists.mp group
        have refused := not_exists.mp leaf
        obtain ⟨reads, visited⟩ := locale_of_reported before closed refused
        rw [reads, visited]
        exact .reported closed refused

/-- The children of a device have one run. -/
theorem localesRun_iff : Run LocaleStep members device before after visits ↔
    after = members.foldl (fun found member => putLocale found member.1 member.2) before ∧
      visits = spread (localeVisit device) members :=
  run_iff_foldl fun _ _ _ _ _ => localeStep_iff

end Locales

section Devices

variable {before after : Entries (Entries (Entries TextStyle))}

theorem withDevice_foldl_putLocale (devices : Entries (Entries (Entries TextStyle)))
    (device : String) (members : List (String × Json)) :
    withDevice devices device
        (members.foldl (fun found member => putLocale found member.1 member.2) []) =
      devices ++ typography [(device, .object members)] := by
  rw [withDevice, ← locales_eq_filter_foldl]
  cases found : locales members <;> simp [typography, found]

theorem deviceStep_iff : DeviceStep parent member before after own ↔
    after = before ++ typography [member] ∧ own = deviceVisit member := by
  obtain ⟨device, value⟩ := member
  constructor
  · intro step
    cases step with
    | entered inside =>
        obtain ⟨rfl, rfl⟩ := localesRun_iff.mp inside
        exact ⟨withDevice_foldl_putLocale before device _, rfl⟩
    | reported refused =>
        cases value with
        | object members => exact absurd rfl (refused members)
        | _ => simp [typography, deviceVisit, fontFates, alone]
  · rintro ⟨rfl, rfl⟩
    cases value with
    | object members =>
        rw [← withDevice_foldl_putLocale]
        exact .entered (localesRun_iff.mpr ⟨rfl, rfl⟩)
    | _ =>
        simp only [typography, List.filterMap_cons, List.filterMap_nil, List.append_nil]
        exact .reported (by simp)

/-- The font section has one run. -/
theorem devicesRun_iff : Run DeviceStep members parent before after visits ↔
    after = before ++ typography members ∧ visits = spread deviceVisit members := by
  rw [← foldl_append_typography]
  exact run_iff_foldl fun _ _ _ _ _ => deviceStep_iff

end Devices

end Styles

end DesignTokens.Export
