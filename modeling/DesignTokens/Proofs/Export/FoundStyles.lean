import DesignTokens.Export.Typography
import DesignTokens.Proofs.Entries.Collect
import DesignTokens.Proofs.Export.Nodes
import DesignTokens.Proofs.Json.Parts
import DesignTokens.Proofs.StoredTokens

/-!
# The styles of a font section

Whatever a font section holds, the locales of a device have distinct names, each of them
has a style, and the styles of a locale have distinct names. They have every property that the
styles among the nodes of the section have; all of them are stored.
-/

namespace DesignTokens.Export

/-- Stored styles of distinct names. -/
def StoredStyles (styles : Entries TextStyle) : Prop :=
  styles.Collected fun _ style => style.Stored

theorem exists_check_of_ofLeaf_style {tag : String} {payload : Json} {style : TextStyle}
    (h : Node.ofLeaf tag payload = .style style) :
    ∃ record, payload = .object record ∧ TextStyle.check record = .ok style := by
  unfold Node.ofLeaf at h
  split at h
  case isTrue =>
      split at h <;> cases h
  case isFalse =>
      split at h
      case isTrue =>
          split at h
          case h_1 record =>
              split at h
              case h_1 token accepted =>
                  cases h
                  exact ⟨record, rfl, accepted⟩
              case h_2 => cases h
          case h_2 => cases h
      case isFalse =>
          repeat' split at h
          all_goals cases h

theorem mem_of_tagged?_eq_some {members : Entries Json} {tag : String} {payload : Json}
    (h : Node.tagged? members = some (tag, payload)) : ("value", payload) ∈ members := by
  unfold Node.tagged? at h
  split at h
  case h_1 given =>
      cases h
      exact Entries.mem_of_get?_eq_some given
  case h_2 => cases h

/-- A style is the checked value of a leaf. -/
theorem exists_check_of_ofJson_style {value : Json} {style : TextStyle}
    (h : Node.ofJson value = .style style) :
    ∃ members record, value = .object members ∧ ("value", .object record) ∈ members ∧
      TextStyle.check record = .ok style := by
  cases value with
  | object members =>
      have leaf : Node.ofMembers members = .style style := h
      unfold Node.ofMembers at leaf
      split at leaf
      case h_1 tag payload tagged =>
          obtain ⟨record, rfl, accepted⟩ := exists_check_of_ofLeaf_style leaf
          exact ⟨members, record, rfl, mem_of_tagged?_eq_some tagged, accepted⟩
      case h_2 => cases leaf
  | _ => cases h

theorem stored_of_ofJson_style {value : Json} {style : TextStyle}
    (h : Node.ofJson value = .style style) : style.Stored := by
  obtain ⟨_, _, _, _, accepted⟩ := exists_check_of_ofJson_style h
  exact TextStyle.stored_of_check accepted

/-- A style is put under its name. -/
theorem stylesInto_cons_of_style {value : Json} {style : TextStyle}
    (h : Node.ofJson value = .style style) (styles : Entries TextStyle) (name : String)
    (rest : List (String × Json)) :
    stylesInto styles ((name, value) :: rest) = stylesInto (styles.put name style) rest := by
  simp only [stylesInto, List.foldl_cons, h]

/-- Any other node of a locale is passed over. -/
theorem stylesInto_cons_of_no_style {value : Json} (h : ∀ style, Node.ofJson value ≠ .style style)
    (styles : Entries TextStyle) (name : String) (rest : List (String × Json)) :
    stylesInto styles ((name, value) :: rest) = stylesInto styles rest := by
  simp only [stylesInto, List.foldl_cons]

/-- The children of a device are put one after the other. -/
theorem locales_eq_filter_foldl (members : List (String × Json)) :
    locales members =
      (members.foldl (fun found member => putLocale found member.1 member.2) []).filter
        fun entry => !entry.2.isEmpty := rfl

/-- A property of all styles among a node and what is below it. -/
def StylesHold (holds : TextStyle → Prop) (value : Json) : Prop :=
  value.Throughout fun part => ∀ style, Node.ofJson part = .style style → holds style

section Collected

variable {holds : TextStyle → Prop}

theorem StylesHold.children {value : Json} (each : StylesHold holds value)
    {children : List (String × Json)} (h : Node.ofJson value = .group children) :
    ∀ child ∈ children, StylesHold holds child.2 := by
  obtain rfl := eq_object_of_ofJson_eq_group h
  exact each.member

theorem collected_stylesInto {styles : Entries TextStyle}
    (collected : styles.Collected fun _ style => holds style) {members : List (String × Json)}
    (each : ∀ member ∈ members, StylesHold holds member.2) :
    (stylesInto styles members).Collected fun _ style => holds style := by
  induction members generalizing styles with
  | nil => exact collected
  | cons member rest ih =>
      obtain ⟨name, value⟩ := member
      have others := fun other mem => each other (List.mem_cons_of_mem _ mem)
      by_cases h : ∃ style, Node.ofJson value = .style style
      · obtain ⟨style, h⟩ := h
        have own : holds style := (each (name, value) List.mem_cons_self).self style h
        rw [stylesInto_cons_of_style h]
        exact ih (collected.put own) others
      · rw [not_exists] at h
        rw [stylesInto_cons_of_no_style h]
        exact ih collected others

theorem collected_putLocale {locales : Entries (Entries TextStyle)}
    (collected : locales.Collected fun _ styles => styles.Collected fun _ style => holds style)
    (name : String) {value : Json} (each : StylesHold holds value) :
    (putLocale locales name value).Collected fun _ styles =>
      styles.Collected fun _ style => holds style := by
  unfold putLocale
  split
  case h_1 style h =>
      have own : holds style := each.self style h
      apply collected.update
      · exact Entries.collected_nil.put own
      · exact fun styles known => known.put own
  case h_2 members h =>
      apply collected.update
      · exact collected_stylesInto Entries.collected_nil (each.children h)
      · exact fun styles known => collected_stylesInto known (each.children h)
  case h_3 => exact collected

/-- The locales of a device have distinct names, and each has styles of distinct names, at least
one. -/
theorem collected_locales {members : List (String × Json)}
    (each : ∀ member ∈ members, StylesHold holds member.2) :
    (locales members).Collected fun _ (styles : Entries TextStyle) =>
      styles ≠ [] ∧ styles.Collected fun _ style => holds style := by
  have run : ∀ found : Entries (Entries TextStyle),
      (found.Collected fun _ styles => styles.Collected fun _ style => holds style) →
      (members.foldl (fun found member => putLocale found member.1 member.2) found).Collected
        fun _ styles => styles.Collected fun _ style => holds style := by
    induction members with
    | nil => exact fun found h => h
    | cons member rest ih =>
        intro found h
        exact ih (fun other mem => each other (List.mem_cons_of_mem _ mem)) _
          (collected_putLocale h member.1 (each member List.mem_cons_self))
  rw [locales_eq_filter_foldl]
  have kept := (run [] Entries.collected_nil).filter fun entry => !entry.2.isEmpty
  refine ⟨kept.distinct, fun entry mem => ⟨?_, kept.each entry mem⟩⟩
  have nonempty := (List.mem_filter.mp mem).2
  simpa using nonempty

/-- A device of a model has such locales, at least one. -/
theorem collected_of_mem_typography {nodes : List (String × Json)}
    (each : ∀ node ∈ nodes, StylesHold holds node.2)
    {entry : String × Entries (Entries TextStyle)} (mem : entry ∈ typography nodes) :
    entry.2 ≠ [] ∧ entry.2.Collected fun _ (styles : Entries TextStyle) =>
      styles ≠ [] ∧ styles.Collected fun _ style => holds style := by
  obtain ⟨⟨device, value⟩, here, found⟩ := List.mem_filterMap.mp mem
  cases value with
  | object members =>
      simp only at found
      split at found
      case h_1 => cases found
      case h_2 nonempty =>
          cases found
          exact ⟨nonempty, collected_locales (each _ here).member⟩
  | _ => cases found

end Collected

/-- The locales of a device have distinct names, and each has stored styles of distinct
names, at least one. -/
def StoredLocales (locales : Entries (Entries TextStyle)) : Prop :=
  locales.Collected fun _ styles => styles ≠ [] ∧ StoredStyles styles

/-- A device of a model has stored locales, at least one. -/
theorem storedLocales_of_mem_typography {nodes : List (String × Json)}
    {entry : String × Entries (Entries TextStyle)} (mem : entry ∈ typography nodes) :
    entry.2 ≠ [] ∧ StoredLocales entry.2 :=
  collected_of_mem_typography
    (fun node _ => Json.throughout_of_forall (fun _ _ h => stored_of_ofJson_style h) node.2) mem

end DesignTokens.Export
