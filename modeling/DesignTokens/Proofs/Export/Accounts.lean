import DesignTokens.Log
import DesignTokens.Proofs.Export.Runs
import Mathlib.Algebra.GroupWithZero.Nat

/-!
# Every visited node is accounted for

Reading an export is one run through its sections, which keeps, enters or reports each node that it
visits. The log has one record for each reported node, in the order of the visit, and ends with the
numbers of the text styles and the gradients that the model has.

## Implementation notes

A node is kept where its token is stored. A token that is stored at the same place later takes its
place, so the model may have fewer tokens than there are kept nodes.

-/

namespace DesignTokens

namespace Export

/-- A run through the sections of an export, with the model that is read and the nodes that are
visited. -/
inductive ExportRun (sections : Entries Json) : Model → List Visit → Prop
  | intro {tree : Tree String} {devices : Entries (Entries (Entries TextStyle))}
      {categories : Entries (Entries Gradient)} {inColors inFont inGradients : List Visit}
      (colors : Run ColorStep ((section? "color" sections).getD []) "" .nil tree inColors)
      (font : Run DeviceStep ((section? "font" sections).getD []) "" [] devices inFont)
      (gradients : Run GradientStep ((section? "gradient" sections).getD []) "" [] categories
        inGradients) :
      ExportRun sections
        ⟨tree.map .string, devices, (section? "gradient" sections).map fun _ => categories⟩
        (inColors.map (Visit.under "color") ++ inFont.map (Visit.under "font") ++
          inGradients.map (Visit.under "gradient"))

variable {sections : Entries Json} {found : Model} {visited : List Visit}

theorem map_gradients (sections : Entries Json) :
    ((section? "gradient" sections).map fun _ =>
        (gradientsBelow "" ((section? "gradient" sections).getD [])).foldl putGradient []) =
      (section? "gradient" sections).map gradients := by
  cases section? "gradient" sections <;> rfl

/-- An export has one run, which ends with its model and visits what the reader visits. -/
theorem exportRun_iff :
    ExportRun sections found visited ↔ found = model sections ∧ visited = visits sections := by
  constructor
  · rintro ⟨colors, font, gradients⟩
    obtain ⟨rfl, rfl⟩ := colorsRun_iff.mp colors
    obtain ⟨rfl, rfl⟩ := devicesRun_iff.mp font
    obtain ⟨rfl, rfl⟩ := gradientsRun_iff.mp gradients
    rw [map_gradients]
    exact ⟨rfl, rfl⟩
  · rintro ⟨rfl, rfl⟩
    rw [model, ← map_gradients]
    exact .intro (colorsRun_iff.mpr ⟨rfl, rfl⟩) (devicesRun_iff.mpr ⟨rfl, rfl⟩)
      (gradientsRun_iff.mpr ⟨rfl, rfl⟩)

section Addresses

variable {visit : String × Json → List Visit} {members : List (String × Json)} {value : Json}
  {path device locale : String}

/-- The addresses of visited nodes. -/
def addressesOf (visits : List Visit) : List (List String) :=
  visits.map Visit.address

theorem addressesOf_append (first second : List Visit) :
    addressesOf (first ++ second) = addressesOf first ++ addressesOf second :=
  List.map_append

theorem addressesOf_under (name : String) (visits : List Visit) :
    addressesOf (visits.map (Visit.under name)) = (addressesOf visits).map (name :: ·) := by
  simp [addressesOf, Visit.under]

theorem mem_addressesOf_under {name : String} {visits : List Visit} {address : List String} :
    address ∈ addressesOf (visits.map (Visit.under name)) ↔
      ∃ tail ∈ addressesOf visits, name :: tail = address := by
  rw [addressesOf_under, List.mem_map]

theorem nodup_addressesOf_under (name : String) {visits : List Visit}
    (nodup : (addressesOf visits).Nodup) :
    (addressesOf (visits.map (Visit.under name))).Nodup := by
  rw [addressesOf_under]
  exact nodup.map (List.cons_injective)

/-- The addresses below an object lead through its members. -/
theorem exists_of_mem_addressesOf_spread {address : List String}
    (mem : address ∈ addressesOf (spread visit members)) :
    ∃ member ∈ members, ∃ tail, address = member.1 :: tail := by
  obtain ⟨found, listed, rfl⟩ := List.mem_map.mp mem
  obtain ⟨member, here, listed⟩ := List.mem_flatMap.mp listed
  obtain ⟨inner, _, rfl⟩ := List.mem_map.mp listed
  exact ⟨member, here, inner.address, rfl⟩

theorem nodup_addressesOf_spread (distinct : (members.map Prod.fst).Nodup)
    (each : ∀ member ∈ members, (addressesOf (visit member)).Nodup) :
    (addressesOf (spread visit members)).Nodup := by
  induction members with
  | nil => exact List.nodup_nil
  | cons member rest ih =>
      rw [List.map_cons, List.nodup_cons] at distinct
      rw [List.forall_mem_cons] at each
      rw [spread, List.flatMap_cons, addressesOf_append]
      refine (nodup_addressesOf_under member.1 each.1).append (ih distinct.2 each.2) ?_
      intro address own others
      obtain ⟨tail, _, rfl⟩ := mem_addressesOf_under.mp own
      obtain ⟨other, here, _, same⟩ := exists_of_mem_addressesOf_spread others
      exact distinct.1 ((List.cons.inj same).1 ▸ List.mem_map_of_mem here)

theorem nodup_addressesOf_entered (distinct : (members.map Prod.fst).Nodup)
    (each : ∀ member ∈ members, (addressesOf (visit member)).Nodup) :
    (addressesOf (⟨[], .entered⟩ :: spread visit members)).Nodup := by
  refine List.nodup_cons.mpr ⟨fun mem => ?_, nodup_addressesOf_spread distinct each⟩
  obtain ⟨_, _, _, same⟩ := exists_of_mem_addressesOf_spread mem
  cases same

theorem nodup_addressesOf_colorVisit (distinct : value.Distinct) (path : String) :
    (addressesOf (colorVisit path value)).Nodup := by
  induction value using Json.partInduction generalizing path with
  | object members ih =>
      rcases color_trichotomy path (Node.ofJson (.object members)) with
        ⟨color, first, more, leaf, place⟩ | ⟨children, group⟩ | ⟨notice, refused⟩
      · rw [(color_of_kept .nil leaf place).2]
        exact List.nodup_singleton _
      · obtain rfl : children = members := Node.members_eq_of_group group
        rw [colorVisit_of_group group, colorVisits_eq_spread]
        exact nodup_addressesOf_entered distinct.self fun member mem =>
          ih member mem (distinct.member member mem) _
      · rw [(color_of_reported .nil refused).2]
        exact List.nodup_singleton _
  | _ => exact List.nodup_singleton _

theorem nodup_addressesOf_gradientVisit (distinct : value.Distinct) (path : String) :
    (addressesOf (gradientVisit path value)).Nodup := by
  induction value using Json.partInduction generalizing path with
  | object members ih =>
      rcases gradient_trichotomy path (Node.ofJson (.object members)) with
        ⟨token, category, key, leaf, place⟩ | ⟨children, group⟩ | ⟨notice, refused⟩
      · rw [(gradient_of_kept [] leaf place).2]
        exact List.nodup_singleton _
      · obtain rfl : children = members := Node.members_eq_of_group group
        rw [gradientVisit_of_group group, gradientVisits_eq_spread]
        exact nodup_addressesOf_entered distinct.self fun member mem =>
          ih member mem (distinct.member member mem) _
      · rw [(gradient_of_reported [] refused).2]
        exact List.nodup_singleton _
  | _ => exact List.nodup_singleton _

theorem nodup_addressesOf_localeVisit {member : String × Json} (distinct : member.2.Distinct) :
    (addressesOf (localeVisit device member)).Nodup := by
  obtain ⟨name, value⟩ := member
  by_cases group : ∃ children, Node.ofJson value = .group children
  · obtain ⟨children, group⟩ := group
    obtain rfl := eq_object_of_ofJson_eq_group group
    rw [(locale_of_entered [] group).2]
    exact nodup_addressesOf_entered distinct.self fun _ _ => List.nodup_singleton _
  · have closed := not_exists.mp group
    by_cases leaf : ∃ token, Node.ofJson value = .style token
    · obtain ⟨token, leaf⟩ := leaf
      rw [(locale_of_kept [] leaf).2]
      exact List.nodup_singleton _
    · rw [(locale_of_reported [] closed (not_exists.mp leaf)).2]
      exact List.nodup_singleton _

theorem nodup_addressesOf_deviceVisit {member : String × Json} (distinct : member.2.Distinct) :
    (addressesOf (deviceVisit member)).Nodup := by
  obtain ⟨device, value⟩ := member
  cases value with
  | object members =>
      exact nodup_addressesOf_entered distinct.self fun member mem =>
        nodup_addressesOf_localeVisit (distinct.member member mem)
  | _ => exact List.nodup_singleton _

/-- In an export whose objects have distinct names, no node is visited twice. -/
theorem nodup_addressesOf_visits (distinct : (Json.object sections).Distinct) :
    (addressesOf (visits sections)).Nodup := by
  have whole := distinct_section distinct
  have inColors : (addressesOf (sectionVisit "color" (colorVisits "") sections)).Nodup := by
    refine nodup_addressesOf_under "color" ?_
    rw [colorVisits_eq_spread]
    exact nodup_addressesOf_spread (whole "color").self fun member mem =>
      nodup_addressesOf_colorVisit ((whole "color").member member mem) _
  have inFont : (addressesOf (sectionVisit "font" (spread deviceVisit) sections)).Nodup :=
    nodup_addressesOf_under "font" (nodup_addressesOf_spread (whole "font").self
      fun member mem => nodup_addressesOf_deviceVisit ((whole "font").member member mem))
  have inGradients :
      (addressesOf (sectionVisit "gradient" (gradientVisits "") sections)).Nodup := by
    refine nodup_addressesOf_under "gradient" ?_
    rw [gradientVisits_eq_spread]
    exact nodup_addressesOf_spread (whole "gradient").self fun member mem =>
      nodup_addressesOf_gradientVisit ((whole "gradient").member member mem) _
  have apart : ∀ {first second : String} {early late : List Visit}, first ≠ second →
      (addressesOf (early.map (Visit.under first))).Disjoint
        (addressesOf (late.map (Visit.under second))) := by
    intro first second early late other address here there
    obtain ⟨_, _, rfl⟩ := mem_addressesOf_under.mp here
    obtain ⟨_, _, same⟩ := mem_addressesOf_under.mp there
    exact other (List.cons.inj same).1.symm
  rw [visits, addressesOf_append, addressesOf_append]
  refine (inColors.append inFont (apart (by decide))).append inGradients ?_
  exact List.disjoint_append_left.mpr ⟨apart (by decide), apart (by decide)⟩

end Addresses

section Notices

/-- A notice about a node that is skipped. -/
def Notice.IsSkip : Notice → Prop
  | .sectionsIgnored _ | .found _ _ => False
  | _ => True

/-- The word that the text of a notice about a skipped node starts with. -/
def skipWord : List Char :=
  "Skipping ".toList

theorem startsSkip_append {front : String} (starts : skipWord <+: front.toList)
    (rest : List Char) : skipWord <+: front.toList ++ rest :=
  starts.trans (List.prefix_append _ _)

theorem not_startsSkip_append {front : String} (long : skipWord.length ≤ front.toList.length)
    (other : ¬skipWord <+: front.toList) (rest : List Char) :
    ¬skipWord <+: front.toList ++ rest := fun starts =>
  other (List.prefix_of_prefix_length_le starts (List.prefix_append _ _) long)

theorem Notice.isSkip_iff (notice : Notice) :
    notice.IsSkip ↔ skipWord <+: notice.text.toList := by
  -- Equations for the texts would be derived by evaluating them.
  delta text
  cases notice with
  | sectionsIgnored names =>
      simp only [String.toList_append]
      exact iff_of_false not_false (not_startsSkip_append (by decide) (by decide) _)
  | found styles gradients =>
      simp only [String.toList_append, List.append_assoc]
      exact iff_of_false not_false (not_startsSkip_append (by decide) (by decide) _)
  | _ =>
      simp only [String.toList_append, List.append_assoc]
      exact iff_of_true trivial (startsSkip_append (by decide) _)

theorem ColorRefusal.isSkip {path : String} {node : Node} {notice : Notice}
    (refused : ColorRefusal path node notice) : notice.IsSkip := by
  cases refused <;> trivial

theorem GradientRefusal.isSkip {path : String} {node : Node} {notice : Notice}
    (refused : GradientRefusal path node notice) : notice.IsSkip := by
  cases refused <;> trivial

/-- Fates whose notices are about skipped nodes. -/
def SkipsOnly (fates : List Fate) : Prop :=
  ∀ notice, .reported notice ∈ fates → notice.IsSkip

theorem skipsOnly_append {first second : List Fate} (early : SkipsOnly first)
    (late : SkipsOnly second) : SkipsOnly (first ++ second) := by
  intro notice mem
  rcases List.mem_append.mp mem with mem | mem
  · exact early notice mem
  · exact late notice mem

theorem skipsOnly_entered {fates : List Fate} (below : SkipsOnly fates) :
    SkipsOnly (.entered :: fates) := by
  intro notice mem
  rcases List.mem_cons.mp mem with same | mem
  · cases same
  · exact below notice mem

theorem skipsOnly_kept : SkipsOnly [.kept] := by
  intro notice mem
  cases List.mem_singleton.mp mem

theorem skipsOnly_reported {notice : Notice} (skip : notice.IsSkip) :
    SkipsOnly [.reported notice] := by
  intro other mem
  cases List.mem_singleton.mp mem
  exact skip

theorem skipsOnly_flatMap {α : Type} {fates : α → List Fate} {items : List α}
    (each : ∀ item ∈ items, SkipsOnly (fates item)) : SkipsOnly (items.flatMap fates) := by
  intro notice mem
  obtain ⟨item, here, mem⟩ := List.mem_flatMap.mp mem
  exact each item here notice mem

theorem skipsOnly_colorFates :
    (∀ value path, SkipsOnly (colorFate path value)) ∧
      ∀ members parent, SkipsOnly (colorFates parent members) := by
  apply visitInduction
  case group =>
      intro path members group below
      rw [← fates_colorVisit.1, colorVisit_of_group group, List.map_cons, fates_colorVisit.2]
      exact skipsOnly_entered below
  case other =>
      intro path value closed
      rcases color_trichotomy path (Node.ofJson value) with
        ⟨color, first, more, leaf, place⟩ | ⟨members, group⟩ | ⟨notice, refused⟩
      · rw [← fates_colorVisit.1, (color_of_kept .nil leaf place).2]
        exact skipsOnly_kept
      · exact absurd group (closed members)
      · rw [← fates_colorVisit.1, (color_of_reported .nil refused).2]
        exact skipsOnly_reported refused.isSkip
  case nil =>
      intro parent notice mem
      cases mem
  case cons =>
      intro parent name value rest own others
      rw [colorFates]
      exact skipsOnly_append own others

theorem skipsOnly_gradientFates :
    (∀ value path, SkipsOnly (gradientFate path value)) ∧
      ∀ members parent, SkipsOnly (gradientFates parent members) := by
  apply visitInduction
  case group =>
      intro path members group below
      rw [← fates_gradientVisit.1, gradientVisit_of_group group, List.map_cons,
        fates_gradientVisit.2]
      exact skipsOnly_entered below
  case other =>
      intro path value closed
      rcases gradient_trichotomy path (Node.ofJson value) with
        ⟨token, category, key, leaf, place⟩ | ⟨members, group⟩ | ⟨notice, refused⟩
      · rw [← fates_gradientVisit.1, (gradient_of_kept [] leaf place).2]
        exact skipsOnly_kept
      · exact absurd group (closed members)
      · rw [← fates_gradientVisit.1, (gradient_of_reported [] refused).2]
        exact skipsOnly_reported refused.isSkip
  case nil =>
      intro parent notice mem
      cases mem
  case cons =>
      intro parent name value rest own others
      rw [gradientFates]
      exact skipsOnly_append own others

theorem skipsOnly_fontFates (nodes : List (String × Json)) : SkipsOnly (fontFates nodes) := by
  have styles : ∀ device locale members, SkipsOnly (styleFates device locale members) := by
    intro device locale members notice mem
    obtain ⟨⟨name, value⟩, _, fate⟩ := List.mem_map.mp mem
    dsimp only at fate
    split at fate
    · cases fate
    · obtain rfl := Fate.reported.inj fate
      trivial
  have locales : ∀ device members, SkipsOnly (localeFates device members) := by
    intro device members
    refine skipsOnly_flatMap fun member _ => ?_
    dsimp only
    split
    · exact skipsOnly_kept
    · exact skipsOnly_entered (styles _ _ _)
    · exact skipsOnly_reported trivial
  refine skipsOnly_flatMap fun member _ => ?_
  dsimp only
  split
  · exact skipsOnly_entered (locales _ _)
  · exact skipsOnly_reported trivial

/-- Every notice about a visited node says that it is skipped. -/
theorem skipsOnly_fates (sections : Entries Json) : SkipsOnly (fates sections) :=
  skipsOnly_append
    (skipsOnly_append (skipsOnly_colorFates.2 _ _) (skipsOnly_fontFates _))
    (skipsOnly_gradientFates.2 _ _)

end Notices

end Export

namespace LogRecord

open Export

/-- The record of a notice. -/
def ofNotice (notice : Notice) : LogRecord :=
  ⟨"tokensmith.core.parser", notice.text⟩

/-- A record about a skipped node. -/
def isSkip (record : LogRecord) : Bool :=
  skipWord.isPrefixOf record.text.toList

theorem isSkip_ofNotice_iff (notice : Notice) :
    (ofNotice notice).isSkip = true ↔ notice.IsSkip :=
  List.isPrefixOf_iff_prefix.trans notice.isSkip_iff.symm

end LogRecord

namespace Export

theorem ofExport_eq (sections : Entries Json) :
    LogRecord.ofExport sections = (notices sections).map LogRecord.ofNotice := rfl

theorem isSkip_of_mem_noticesOf {fates : List Fate} (skips : SkipsOnly fates) {notice : Notice}
    (mem : notice ∈ noticesOf fates) : notice.IsSkip := by
  obtain ⟨fate, here, told⟩ := List.mem_filterMap.mp mem
  cases fate with
  | reported other =>
      obtain rfl := Option.some.inj told
      exact skips other here
  | kept => cases told
  | entered => cases told

/-- Behind the notices about skipped nodes stand others, the last of which tells what is found. -/
theorem notices_eq (sections : Entries Json) : ∃ others : List Notice,
    (∀ notice ∈ others, ¬notice.IsSkip) ∧
    others.getLast? =
      some (.found (model sections).styles.length (model sections).gradientEntries.length) ∧
    notices sections = noticesOf (fates sections) ++ others := by
  refine ⟨_, ?_, ?_, by rw [notices, List.append_assoc]⟩
  · cases otherSections sections with
    | nil => simp [Notice.IsSkip]
    | cons name more => simp [Notice.IsSkip]
  · exact List.getLast?_concat

theorem notices_visits (sections : Entries Json) :
    (noticesOf (fates sections)).map LogRecord.ofNotice =
      (visits sections).filterMap fun visit => visit.fate.notice?.map LogRecord.ofNotice := by
  rw [← fates_visits, noticesOf, List.filterMap_map, List.map_filterMap]
  rfl

/-- The records about skipped nodes are those of the reported nodes, in the order of the visit. -/
theorem filter_isSkip_ofExport (sections : Entries Json) :
    (LogRecord.ofExport sections).filter LogRecord.isSkip =
      (visits sections).filterMap fun visit => visit.fate.notice?.map LogRecord.ofNotice := by
  obtain ⟨others, none, _, whole⟩ := notices_eq sections
  have skips : ∀ record ∈ (noticesOf (fates sections)).map LogRecord.ofNotice,
      record.isSkip = true := by
    rw [List.forall_mem_map]
    intro notice mem
    exact (LogRecord.isSkip_ofNotice_iff notice).mpr
      (isSkip_of_mem_noticesOf (skipsOnly_fates sections) mem)
  have rest : ∀ record ∈ others.map LogRecord.ofNotice, ¬record.isSkip = true := by
    rw [List.forall_mem_map]
    exact fun notice mem skip => none notice mem ((LogRecord.isSkip_ofNotice_iff notice).mp skip)
  rw [ofExport_eq, whole, List.map_append, List.filter_append, List.filter_eq_self.mpr skips,
    List.filter_eq_nil_iff.mpr rest, List.append_nil, notices_visits]

end Export

namespace Model

/-- The number of text styles that stand in a model. -/
def styleCount (model : Model) : Nat :=
  (model.typography.map fun device => (device.2.map fun locale => locale.2.length).sum).sum

/-- The number of gradients that stand in a model. -/
def gradientCount (model : Model) : Nat :=
  ((model.gradients.getD []).map fun category => category.2.length).sum

theorem length_styles (model : Model) : model.styles.length = model.styleCount := by
  simp [styles, styleCount, List.length_flatMap]

theorem length_gradientEntries (model : Model) :
    model.gradientEntries.length = model.gradientCount := by
  simp [gradientEntries, gradientCount, List.length_flatMap]

end Model

namespace Export

/-- What the log of an export says about its nodes and about the model that is read. -/
structure Accounted (sections : Entries Json) : Prop where
  /-- One run keeps, enters or reports each node in the order of the visit. -/
  run : ∀ found visited, ExportRun sections found visited ↔
    found = model sections ∧ visited = visits sections
  once : (Json.object sections).Distinct → (addressesOf (visits sections)).Nodup
  fate : ∀ visit ∈ visits sections, visit.fate = .kept ∨ visit.fate = .entered ∨
    ∃ notice, visit.fate = .reported notice ∧ skipWord <+: notice.text.toList
  level : LogRecord.level = .debug
  skips : (LogRecord.ofExport sections).filter LogRecord.isSkip =
    (visits sections).filterMap fun visit => visit.fate.notice?.map LogRecord.ofNotice
  summary : (LogRecord.ofExport sections).getLast? = some (.ofNotice
    (.found (model sections).styleCount (model sections).gradientCount))

/-- Nothing inside a section is dropped silently. Each visited node is stored, entered or has one
record, the records stand in the order of the visit, and the last one counts what the model has. -/
theorem accounted (sections : Entries Json) : Accounted sections where
  run _ _ := exportRun_iff
  once := nodup_addressesOf_visits
  fate := by
    intro visit mem
    cases told : visit.fate with
    | kept => exact .inl rfl
    | entered => exact .inr (.inl rfl)
    | reported notice =>
        have here : Fate.reported notice ∈ fates sections := by
          rw [← fates_visits, ← told]
          exact List.mem_map_of_mem mem
        exact .inr (.inr ⟨notice, rfl, notice.isSkip_iff.mp (skipsOnly_fates sections notice here)⟩)
  level := rfl
  skips := filter_isSkip_ofExport sections
  summary := by
    obtain ⟨others, _, last, whole⟩ := notices_eq sections
    rw [ofExport_eq, whole, List.map_append, List.getLast?_append, List.getLast?_map, last,
      Model.length_styles, Model.length_gradientEntries]
    rfl

example : (LogRecord.ofExport [("color", .object [("%", leafNode "color" (.string "#000000")),
      ("note", .null)]), ("version", .null)]).map LogRecord.text =
    ["Skipping color '%': key normalizes to nothing",
      "Skipping color node 'note': expected an object, got NoneType",
      "Ignoring top-level sections: version",
      "Parsed tokens: 0 typography styles, 0 gradients"] := by
  decide +kernel

end Export

end DesignTokens
