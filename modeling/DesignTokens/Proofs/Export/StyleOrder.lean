import DesignTokens.Proofs.Entries.Groups
import DesignTokens.Proofs.Export.FoundStyles

/-!
# The order of styles

A font section is read device by device. Of a device, every child that is a style or a group
opens a locale: a style the locale `default`, a group the locale of its own name. What is read
is determined by the styles of the device in document order, each with its locale, and by the
locales in the order in which they are opened.
-/

namespace DesignTokens.Export

/-- The styles among named nodes, in order. -/
def stylesAmong (nodes : List (String × Json)) : List (String × TextStyle) :=
  nodes.filterMap fun (name, value) =>
    match Node.ofJson value with
    | .style token => some (name, token)
    | _ => none

/-- The locale that a child of a device opens, with the styles that it has there. -/
def localePart? (name : String) (value : Json) : Option (Part TextStyle) :=
  match Node.ofJson value with
  | .style token => some ⟨defaultLocale, [(name, token)]⟩
  | .group children => some ⟨name, stylesAmong children⟩
  | _ => none

def localeParts (members : List (String × Json)) : List (Part TextStyle) :=
  members.filterMap fun member => localePart? member.1 member.2

/-- The locales that the children of a device open, in order. -/
def openedLocales (members : List (String × Json)) : List String :=
  (localeParts members).map Part.group

/-- The styles of a device in document order, each with its locale. -/
def deviceStyles (members : List (String × Json)) : List (Grouped TextStyle) :=
  (localeParts members).flatMap Part.values

theorem mem_stylesAmong_iff {nodes : List (String × Json)} {name : String} {token : TextStyle} :
    (name, token) ∈ stylesAmong nodes ↔
      ∃ value, (name, value) ∈ nodes ∧ Node.ofJson value = .style token := by
  rw [stylesAmong, List.mem_filterMap]
  constructor
  · rintro ⟨⟨label, value⟩, mem, read⟩
    cases kind : Node.ofJson value with
    | style found =>
        simp only [kind, Option.some.injEq, Prod.mk.injEq] at read
        obtain ⟨rfl, rfl⟩ := read
        exact ⟨value, mem, kind⟩
    | _ => simp [kind] at read
  · rintro ⟨value, mem, kind⟩
    exact ⟨(name, value), mem, by simp [kind]⟩

/-- A style of a device stands in a group of its locale, or directly below the device if its
locale is the default one. -/
theorem mem_deviceStyles_iff {members : List (String × Json)} {locale name : String}
    {token : TextStyle} :
    ⟨locale, name, token⟩ ∈ deviceStyles members ↔
      (∃ value children child, (locale, value) ∈ members ∧
        Node.ofJson value = .group children ∧ (name, child) ∈ children ∧
        Node.ofJson child = .style token) ∨
      (locale = defaultLocale ∧ ∃ value, (name, value) ∈ members ∧
        Node.ofJson value = .style token) := by
  simp only [deviceStyles, localeParts, List.mem_flatMap, List.mem_filterMap]
  constructor
  · rintro ⟨part, ⟨⟨label, value⟩, mem, opened⟩, inside⟩
    obtain ⟨⟨own, found⟩, listed, same⟩ := List.mem_map.mp inside
    cases same
    cases kind : Node.ofJson value with
    | style found =>
        simp only [localePart?, kind, Option.some.injEq] at opened
        subst opened
        cases List.mem_singleton.mp listed
        exact Or.inr ⟨rfl, value, mem, kind⟩
    | group children =>
        simp only [localePart?, kind, Option.some.injEq] at opened
        subst opened
        obtain ⟨child, below, read⟩ := mem_stylesAmong_iff.mp listed
        exact Or.inl ⟨value, children, child, mem, kind, below, read⟩
    | _ => simp [localePart?, kind] at opened
  · rintro (⟨value, children, child, mem, kind, below, read⟩ | ⟨rfl, value, mem, kind⟩)
    · refine ⟨⟨locale, stylesAmong children⟩, ⟨(locale, value), mem, ?_⟩, ?_⟩
      · simp [localePart?, kind]
      · exact List.mem_map_of_mem (mem_stylesAmong_iff.mpr ⟨child, below, read⟩)
    · refine ⟨⟨defaultLocale, [(name, token)]⟩, ⟨(name, value), mem, ?_⟩, ?_⟩
      · simp [localePart?, kind]
      · exact List.mem_singleton.mpr rfl

theorem stylesInto_eq_putAll (styles : Entries TextStyle) (members : List (String × Json)) :
    stylesInto styles members = styles.putAll (stylesAmong members) := by
  induction members generalizing styles with
  | nil => rfl
  | cons member rest ih =>
      obtain ⟨name, value⟩ := member
      cases kind : Node.ofJson value with
      | style token =>
          rw [stylesInto_cons_of_style kind, ih]
          simp [stylesAmong, kind, Entries.putAll]
      | _ =>
          rw [stylesInto_cons_of_no_style (by simp [kind]), ih]
          simp [stylesAmong, kind]

/-- A child of a device puts its part. -/
theorem putLocale_eq (found : Entries (Entries TextStyle)) (name : String) (value : Json) :
    putLocale found name value = (localePart? name value).elim found found.putPart := by
  cases kind : Node.ofJson value with
  | style token =>
      simp only [putLocale, localePart?, kind]
      rfl
  | group children =>
      simp only [putLocale, localePart?, kind, stylesInto_eq_putAll]
      rfl
  | _ => simp [putLocale, localePart?, kind]

/-- The locales of a device are its parts put one after the other, less the empty ones. -/
theorem locales_eq_filter_groupParts (members : List (String × Json)) :
    locales members =
      (Entries.groupParts (localeParts members)).filter fun entry => !entry.2.isEmpty := by
  rw [locales_eq_filter_foldl, Entries.groupParts, localeParts, List.foldl_filterMap]
  congr 2
  funext found member
  rw [putLocale_eq]
  cases localePart? member.1 member.2 <;> rfl

/-- A locale has the styles of the device that belong to it. -/
theorem get?_locales (members : List (String × Json)) (locale : String) :
    (locales members).get? locale =
      if pairsOf locale (deviceStyles members) = [] then none
      else some (Entries.ofPairs (pairsOf locale (deviceStyles members))) := by
  rw [locales_eq_filter_groupParts,
    Entries.get?_filter (Entries.nodup_names_groupParts _) fun styles => !styles.isEmpty,
    Entries.get?_groupParts]
  change Option.filter _ (if _ then some (Entries.ofPairs (pairsOf locale (deviceStyles members)))
    else none) = _
  by_cases vacant : pairsOf locale (deviceStyles members) = []
  · rw [if_pos vacant, vacant]
    split <;> rfl
  · have opened : locale ∈ (localeParts members).map Part.group :=
      Decidable.of_not_not fun closed => vacant (pairsOf_eq_nil_of_notMem closed)
    have occupied : Entries.ofPairs (pairsOf locale (deviceStyles members)) ≠ [] :=
      fun none_there => vacant (Entries.ofPairs_eq_nil_iff.mp none_there)
    rw [if_pos opened, if_neg vacant, Option.filter_some, if_pos (by simpa using occupied)]

theorem names_locales (members : List (String × Json)) :
    (locales members).names = (openedLocales members).eraseDups.filter fun locale =>
      pairsOf locale (deviceStyles members) ≠ [] := by
  rw [locales_eq_filter_groupParts,
    Entries.names_filter (Entries.nodup_names_groupParts _) fun styles => !styles.isEmpty,
    Entries.names_groupParts]
  apply List.filter_congr
  intro locale mem
  rw [Entries.get?_groupParts, if_pos (List.mem_eraseDups.mp mem), Option.any_some]
  have occupied : Entries.ofPairs (pairsOf locale (deviceStyles members)) = [] ↔ _ :=
    Entries.ofPairs_eq_nil_iff
  change (!(Entries.ofPairs (pairsOf locale (deviceStyles members))).isEmpty) = _
  rw [Bool.eq_iff_iff]
  simp [occupied]

/-- The locales of an object that have a style, if there are any. -/
def foundLocales? : Json → Option (Entries (Entries TextStyle))
  | .object members => if locales members = [] then none else some (locales members)
  | _ => none

theorem typography_eq_filterMap (nodes : List (String × Json)) :
    typography nodes =
      nodes.filterMap fun node => (foundLocales? node.2).map fun found => (node.1, found) := by
  unfold typography
  congr 1
  funext ⟨device, value⟩
  cases value with
  | object members =>
      simp only [foundLocales?]
      cases locales members <;> rfl
  | _ => rfl

theorem get?_typography {nodes : List (String × Json)} (distinct : (Entries.names nodes).Nodup)
    (device : String) :
    Entries.get? device (typography nodes) =
      (Entries.get? device nodes).bind foundLocales? := by
  rw [typography_eq_filterMap, Entries.get?_filterMap distinct]

/-- The locales of a device are those of an object of the section. -/
theorem get?_typography_eq_some_iff {nodes : List (String × Json)}
    (distinct : (Entries.names nodes).Nodup) {device : String}
    {found : Entries (Entries TextStyle)} :
    Entries.get? device (typography nodes) = some found ↔
      ∃ members, Entries.get? device nodes = some (.object members) ∧
        locales members ≠ [] ∧ found = locales members := by
  rw [get?_typography distinct, Option.bind_eq_some_iff]
  constructor
  · rintro ⟨value, here, read⟩
    cases value with
    | object members =>
        rw [foundLocales?, Option.ite_none_left_eq_some] at read
        exact ⟨members, here, read.1, (Option.some.inj read.2).symm⟩
    | _ => cases read
  · rintro ⟨members, here, occupied, rfl⟩
    exact ⟨.object members, here, if_neg occupied⟩

/-- The style of a device, a locale and a name. -/
def styleAt? (devices : Entries (Entries (Entries TextStyle))) (device locale name : String) :
    Option TextStyle :=
  ((devices.get? device).bind (Entries.get? locale)).bind (Entries.get? name)

/-- The style of a locale is the last one of its name. -/
theorem styleAt?_typography {nodes : List (String × Json)}
    (distinct : (Entries.names nodes).Nodup) {device locale name : String} {token : TextStyle} :
    styleAt? (typography nodes) device locale name = some token ↔
      ∃ members, Entries.get? device nodes = some (.object members) ∧
        lastGrouped? locale name (deviceStyles members) = some token := by
  have inside : ∀ members, ((locales members).get? locale).bind (Entries.get? name) =
      lastGrouped? locale name (deviceStyles members) := by
    intro members
    rw [← Entries.get?_ofPairs_pairsOf, get?_locales]
    by_cases vacant : pairsOf locale (deviceStyles members) = []
    · rw [if_pos vacant, vacant]
      rfl
    · rw [if_neg vacant]
      rfl
  rw [styleAt?, Option.bind_assoc, Option.bind_eq_some_iff]
  constructor
  · rintro ⟨found, listed, read⟩
    obtain ⟨members, here, _, rfl⟩ := (get?_typography_eq_some_iff distinct).mp listed
    exact ⟨members, here, (inside members).symm.trans read⟩
  · rintro ⟨members, here, last⟩
    rw [← inside members] at last
    have occupied : locales members ≠ [] := by
      intro none_there
      rw [none_there] at last
      cases last
    exact ⟨locales members,
      (get?_typography_eq_some_iff distinct).mpr ⟨members, here, occupied, rfl⟩, last⟩

/-- A font section and the styles that are read from it. -/
structure ReadsStyles (nodes : List (String × Json))
    (devices : Entries (Entries (Entries TextStyle))) : Prop where
  /-- A style of a locale is the last one of its name that the device has for the locale. -/
  last : ∀ device locale name token, styleAt? devices device locale name = some token ↔
    ∃ members, Entries.get? device nodes = some (.object members) ∧
      lastGrouped? locale name (deviceStyles members) = some token
  /-- There is one if the device is an object that has a style of the name in a group of the
  locale, or directly below it for the default locale. -/
  occurs : ∀ device locale name, (∃ token, styleAt? devices device locale name = some token) ↔
    ∃ members, Entries.get? device nodes = some (.object members) ∧
      ((∃ value children child token, (locale, value) ∈ members ∧
          Node.ofJson value = .group children ∧ (name, child) ∈ children ∧
          Node.ofJson child = .style token) ∨
        (locale = defaultLocale ∧ ∃ value token, (name, value) ∈ members ∧
          Node.ofJson value = .style token))
  /-- No device and no locale is empty. -/
  occupied : ∀ device ∈ devices, device.2 ≠ [] ∧ ∀ locale ∈ device.2, locale.2 ≠ []
  /-- The devices stand in document order. -/
  devices_in_order : devices.names.Sublist (Entries.names nodes)
  /-- The locales stand in the order in which they were opened, with or without a style, and
  the styles of a locale in the order in which their names were first given. -/
  locales_in_order : ∀ device found, devices.get? device = some found →
    ∃ members, Entries.get? device nodes = some (.object members) ∧
      found.names = ((openedLocales members).eraseDups.filter fun locale =>
        pairsOf locale (deviceStyles members) ≠ []) ∧
      ∀ locale styles, found.get? locale = some styles →
        styles.names = ((pairsOf locale (deviceStyles members)).map Prod.fst).eraseDups

/-- A font section reads as the last styles of its devices, locales and names, in document
order. -/
theorem typography_reads_styles (nodes : List (String × Json))
    (distinct : (Entries.names nodes).Nodup) : ReadsStyles nodes (typography nodes) where
  last device locale name token := styleAt?_typography distinct
  occurs device locale name := by
    simp only [styleAt?_typography distinct]
    rw [exists_comm]
    apply exists_congr
    intro members
    rw [exists_and_left, exists_lastGrouped?_iff]
    apply and_congr_right
    intro _
    simp only [mem_deviceStyles_iff]
    constructor
    · rintro ⟨token, ⟨value, children, child, found⟩ | ⟨same, value, found⟩⟩
      · exact Or.inl ⟨value, children, child, token, found⟩
      · exact Or.inr ⟨same, value, token, found⟩
    · rintro (⟨value, children, child, token, found⟩ | ⟨same, value, token, found⟩)
      · exact ⟨token, Or.inl ⟨value, children, child, found⟩⟩
      · exact ⟨token, Or.inr ⟨same, value, found⟩⟩
  occupied device mem := by
    obtain ⟨nonempty, stored⟩ := storedLocales_of_mem_typography mem
    exact ⟨nonempty, fun locale listed => (stored.each locale listed).1⟩
  devices_in_order := by
    rw [typography_eq_filterMap]
    apply Entries.names_filterMap_sublist
    rintro node entry found
    obtain ⟨locales, _, rfl⟩ := Option.map_eq_some_iff.mp found
    rfl
  locales_in_order device found listed := by
    obtain ⟨members, here, _, rfl⟩ := (get?_typography_eq_some_iff distinct).mp listed
    refine ⟨members, here, names_locales members, ?_⟩
    intro locale styles own
    rw [get?_locales, Option.ite_none_left_eq_some] at own
    rw [← Option.some.inj own.2, Entries.names_ofPairs]

/-- A style leaf of sixteen pixels of a font family. -/
def leafOfFamily (family : String) : Json :=
  leafNode "custom-fontStyle" (.object [("fontFamily", .string family),
    ("fontSize", .number (.integer 16)), ("fontWeight", .number (.integer 400)),
    ("lineHeight", .number (.integer 24))])

/-- Devices with and without locales. The default locale is opened by a group without a style,
and a style directly below the device comes to it later. -/
def mixedDevices : List (String × Json) := [
  ("web", .null),
  ("mobile", .object [
    ("default", .object [("body", .null)]),
    ("kr", .object []),
    ("en", .object [("body", leafOfFamily "Inter"), ("note", .object [])]),
    ("body", leafOfFamily "Arial"),
    ("title", .string "none")]),
  ("tablet", .object [("kr", .object [("body", leafNode "color" (.string "#000000"))])]),
  ("desktop", .object [
    ("body", leafOfFamily "Arial"),
    ("default", .object [("title", leafOfFamily "Arial"), ("body", leafOfFamily "Inter")])])]

theorem typography_reads_styles_mixedDevices :
    (Entries.names mixedDevices).Nodup ∧ ReadsStyles mixedDevices (typography mixedDevices) ∧
    ((typography mixedDevices).map fun device =>
      (device.1, device.2.map fun locale => (locale.1, locale.2.names))) = [
        ("mobile", [("default", ["body"]), ("en", ["body"])]),
        ("desktop", [("default", ["body", "title"])])] ∧
    (styleAt? (typography mixedDevices) "desktop" "default" "body").map TextStyle.family =
      some "Inter" := by
  have distinct : (Entries.names mixedDevices).Nodup := by decide
  exact ⟨distinct, typography_reads_styles mixedDevices distinct, by decide, by decide⟩

end DesignTokens.Export
