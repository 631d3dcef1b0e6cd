import DesignTokens.Color
import DesignTokens.Gradient
import DesignTokens.Proofs.Entries.Collect
import DesignTokens.TextStyle

/-!
# Stored tokens

A token that has passed its check is in its stored form: the record that is written from
it passes the check again and gives the same token.
-/

namespace DesignTokens

namespace Color

variable {value digits : List Char}

/-- Eight digits are needed for an alpha channel, and at most seven characters are left
without it. -/
theorem length_of_solidDigits? (h : solidDigits? value = some digits) :
    8 ≤ value.length ∧ digits.length ≤ 7 := by
  unfold solidDigits? at h
  split at h
  rename_i mark body cut
  have parts : mark.length ≤ 1 ∧ body.length ≤ value.length := by
    split at cut
    case h_1 rest =>
        obtain ⟨rfl, rfl⟩ := Prod.mk.inj cut
        simp
    case h_2 =>
        obtain ⟨rfl, rfl⟩ := Prod.mk.inj cut
        simp
  simp only [Option.ite_none_right_eq_some, Option.some.injEq, List.length_drop] at h
  obtain ⟨⟨six, _, two, _⟩, rfl⟩ := h
  rw [List.length_append, six]
  omega

theorem length_withoutFinalFeed_le (value : List Char) :
    (withoutFinalFeed value).length ≤ value.length := by
  unfold withoutFinalFeed
  split
  · rw [List.length_dropLast]
    omega
  · exact Nat.le_refl _

/-- A clean color stays as it is. -/
theorem clean_clean (value : String) : clean (clean value) = clean value := by
  cases h : solidDigits? (withoutFinalFeed value.toList) with
  | none =>
      have same : clean value = value := by simp only [clean, h]
      rw [same, same]
  | some digits =>
      have cleaned : clean value = String.ofList digits := by simp only [clean, h]
      have short := (length_of_solidDigits? h).2
      have solid : solidDigits? (withoutFinalFeed digits) = none := by
        rw [Option.eq_none_iff_forall_ne_some]
        intro again found
        have long := (length_of_solidDigits? found).1
        have bound := length_withoutFinalFeed_le digits
        omega
      rw [cleaned]
      simp only [clean, String.toList_ofList, solid]

end Color

namespace Number

/-- In stored form zero is the integer zero. -/
theorem eq_zero_of_isZero {x : Number} (stored : x.normalize = x) (zero : x.isZero = true) :
    x = .integer 0 := by
  cases x with
  | integer n =>
      have : n = 0 := by simpa [isZero] using zero
      rw [this]
  | real y =>
      cases y with
      | finite negative rank =>
          have least : rank.val = 0 := by simpa [isZero, Binary64.isZero] using zero
          have whole : Binary64.isWhole (.finite negative rank) = true := by
            simp only [Binary64.isWhole, least, Binary64.units_zero, Nat.zero_mod, beq_self_eq_true]
          simp only [normalize, Binary64.toInt?, whole, if_true] at stored
          exact absurd stored (by simp)
      | infinite negative => simp [isZero, Binary64.isZero] at zero
      | nan => simp [isZero, Binary64.isZero] at zero

end Number

namespace Shape

variable {α β : Type}

/-- Two checks side by side succeed if both do. -/
theorem exists_of_both_eq_ok {f : Checked (α → β)} {x : Checked α} {result : β}
    (h : both f x = .ok result) : ∃ g a, f = .ok g ∧ x = .ok a ∧ g a = result := by
  cases f with
  | error first => cases x <;> cases h
  | ok g =>
      cases x with
      | error second => cases h
      | ok a => exact ⟨g, a, rfl, rfl, Except.ok.inj h⟩

theorem exists_of_map_eq_ok {f : α → β} {x : Checked α} {result : β}
    (h : x.map f = .ok result) : ∃ a, x = .ok a ∧ f a = result := by
  cases x with
  | error issues => cases h
  | ok a => exact ⟨a, rfl, Except.ok.inj h⟩

theorem eq_ok_of_below_eq_ok {name : String} {x : Checked α} {result : α}
    (h : below name x = .ok result) : x = .ok result := by
  cases x with
  | error issues => cases h
  | ok a => exact h

/-- A value that is found under one of several names is a member of the record. -/
theorem exists_mem_of_given?_eq_some {names : List String} {record : Entries β} {value : β}
    (h : given? names record = some value) : ∃ member ∈ record, member.2 = value := by
  obtain ⟨name, _, found⟩ := List.exists_of_findSome?_eq_some h
  exact ⟨(name, value), Entries.mem_of_get?_eq_some found, rfl⟩

/-- A field that is accepted was given. -/
theorem exists_mem_of_field_eq_ok {name : String} {others : List String}
    {check : β → Checked α} {record : Entries β} {result : α}
    (h : field name others check record = .ok result) :
    ∃ member ∈ record, check member.2 = .ok result := by
  unfold field at h
  split at h
  case h_1 value given =>
      obtain ⟨member, mem, rfl⟩ := exists_mem_of_given?_eq_some given
      exact ⟨member, mem, eq_ok_of_below_eq_ok h⟩
  case h_2 => cases eq_ok_of_below_eq_ok h

theorem eq_default_or_exists_mem_of_optionalField_eq_ok {name : String} {others : List String}
    {default result : α} {check : β → Checked α} {record : Entries β}
    (h : optionalField name others default check record = .ok result) :
    result = default ∨ ∃ member ∈ record, check member.2 = .ok result := by
  unfold optionalField at h
  split at h
  case h_1 value given =>
      obtain ⟨member, mem, rfl⟩ := exists_mem_of_given?_eq_some given
      exact Or.inr ⟨member, mem, eq_ok_of_below_eq_ok h⟩
  case h_2 => exact Or.inl (Except.ok.inj h).symm

/-- Numbers are accepted in their stored form. -/
theorem normalize_of_number_eq_ok {value : Json} {x : Number} (h : number value = .ok x) :
    x.normalize = x := by
  unfold number at h
  split at h
  case h_1 y =>
      rw [← Except.ok.inj h]
      exact Number.normalize_normalize y
  case h_2 b =>
      rw [← Except.ok.inj h]
      exact Number.normalize_integer _
  case h_3 s =>
      split at h
      case h_1 y _ =>
          rw [← Except.ok.inj h]
          exact Number.normalize_normalize y
      case h_2 => cases h
  case h_4 => cases h

theorem number_of_stored {x : Number} (stored : x.normalize = x) :
    number (.number x) = .ok x := by
  rw [number, stored]

/-- Every item of an accepted list was accepted on its own. -/
theorem exists_mem_of_mem_itemsFrom {position : Nat} {check : β → Checked α} {list : List β}
    {items : List α} (h : itemsFrom position check list = .ok items) :
    ∀ item ∈ items, ∃ value ∈ list, check value = .ok item := by
  induction list generalizing position items with
  | nil =>
      cases h
      simp
  | cons value rest ih =>
      rw [itemsFrom] at h
      obtain ⟨g, others, first, tail, rfl⟩ := exists_of_both_eq_ok h
      obtain ⟨own, accepted, rfl⟩ := exists_of_map_eq_ok first
      intro item mem
      rcases List.mem_cons.mp mem with rfl | mem
      · exact ⟨value, List.mem_cons_self, eq_ok_of_below_eq_ok accepted⟩
      · obtain ⟨other, here, found⟩ := ih tail item mem
        exact ⟨other, List.mem_cons_of_mem value here, found⟩

/-- A list of records is accepted if each of its records is. -/
theorem itemsFrom_map {position : Nat} {check : β → Checked α} {write : α → β}
    {items : List α} (accepted : ∀ item ∈ items, check (write item) = .ok item) :
    itemsFrom position check (items.map write) = .ok items := by
  induction items generalizing position with
  | nil => rfl
  | cons item rest ih =>
      have own := accepted item List.mem_cons_self
      rw [List.map_cons, itemsFrom, own,
        ih fun other mem => accepted other (List.mem_cons_of_mem _ mem)]
      rfl

/-- A mapping is accepted if each of its values is. -/
theorem values_mapValues {check : β → Checked α} {write : α → β} {entries : Entries α}
    (accepted : ∀ entry ∈ entries, check (write entry.2) = .ok entry.2) :
    values check (entries.mapValues write) = .ok entries := by
  induction entries with
  | nil => rfl
  | cons entry rest ih =>
      obtain ⟨name, value⟩ := entry
      have own : check (write value) = .ok value := accepted _ List.mem_cons_self
      have others : values check (Entries.mapValues write rest) = .ok rest :=
        ih fun other mem => accepted other (List.mem_cons_of_mem _ mem)
      have step : values check (Entries.mapValues write ((name, value) :: rest)) =
          both ((below name (check (write value))).map fun x => ((name, x) :: ·))
            (values check (Entries.mapValues write rest)) := rfl
      rw [step, own, others]
      rfl

/-- The values of an accepted mapping were accepted one by one under their names. -/
theorem of_values_eq_ok {check : β → Checked α} {members : Entries β}
    {result : Entries α} (h : values check members = .ok result) :
    result.names = members.names ∧
      ∀ entry ∈ result, ∃ member ∈ members, check member.2 = .ok entry.2 := by
  induction members generalizing result with
  | nil =>
      cases h
      exact ⟨rfl, fun _ mem => absurd mem List.not_mem_nil⟩
  | cons member rest ih =>
      obtain ⟨name, value⟩ := member
      rw [values] at h
      obtain ⟨_, others, first, later, rfl⟩ := exists_of_both_eq_ok h
      obtain ⟨own, accepted, rfl⟩ := exists_of_map_eq_ok first
      obtain ⟨same, each⟩ := ih later
      refine ⟨congrArg (name :: ·) same, fun entry mem => ?_⟩
      rcases List.mem_cons.mp mem with rfl | mem
      · exact ⟨(name, value), List.mem_cons_self, eq_ok_of_below_eq_ok accepted⟩
      · obtain ⟨member, here, found⟩ := each entry mem
        exact ⟨member, List.mem_cons_of_mem _ here, found⟩

theorem collected_of_values_eq_ok {holds : α → Prop} {check : β → Checked α}
    {members : Entries β} {result : Entries α} (h : values check members = .ok result)
    (distinct : members.names.Nodup)
    (each : ∀ member ∈ members, ∀ x, check member.2 = .ok x → holds x) :
    result.Collected fun _ x => holds x := by
  obtain ⟨same, accepted⟩ := of_values_eq_ok h
  refine ⟨same ▸ distinct, fun entry mem => ?_⟩
  obtain ⟨member, here, found⟩ := accepted entry mem
  exact each member here entry.2 found

theorem ne_nil_of_values_eq_ok {check : β → Checked α} {members : Entries β}
    {result : Entries α} (h : values check members = .ok result) (nonempty : members ≠ []) :
    result ≠ [] := by
  rintro rfl
  have same := (of_values_eq_ok h).1
  exact nonempty (List.map_eq_nil_iff.mp same.symm)

end Shape

namespace TextStyle

/-- The numbers of a style. -/
def numbers (style : TextStyle) : List Number :=
  [style.size, style.weight, style.lineHeight, style.letterSpacing]

/-- All numbers of a style are in stored form. -/
structure Stored (style : TextStyle) : Prop where
  size : style.size.normalize = style.size
  weight : style.weight.normalize = style.weight
  lineHeight : style.lineHeight.normalize = style.lineHeight
  letterSpacing : style.letterSpacing.normalize = style.letterSpacing

theorem stored_of_numbers {style : TextStyle} (each : ∀ x ∈ style.numbers, x.normalize = x) :
    style.Stored :=
  ⟨each _ (by simp [numbers]), each _ (by simp [numbers]), each _ (by simp [numbers]),
    each _ (by simp [numbers])⟩

/-- Each number of an accepted style is zero or was accepted as a member of the record. -/
theorem eq_zero_or_exists_mem_of_check {record : Entries Json} {style : TextStyle}
    (h : check record = .ok style) :
    ∀ x ∈ style.numbers, x = .integer 0 ∨ ∃ member ∈ record, Shape.number member.2 = .ok x := by
  obtain ⟨_, letterSpacing, four, spaced, rfl⟩ := Shape.exists_of_both_eq_ok h
  obtain ⟨_, lineHeight, three, line, rfl⟩ := Shape.exists_of_both_eq_ok four
  obtain ⟨_, weight, two, heavy, rfl⟩ := Shape.exists_of_both_eq_ok three
  obtain ⟨_, size, one, sized, rfl⟩ := Shape.exists_of_both_eq_ok two
  obtain ⟨family, _, rfl⟩ := Shape.exists_of_map_eq_ok one
  intro x mem
  simp only [numbers, List.mem_cons, List.not_mem_nil, or_false] at mem
  rcases mem with rfl | rfl | rfl | rfl
  · exact Or.inr (Shape.exists_mem_of_field_eq_ok sized)
  · exact Or.inr (Shape.exists_mem_of_field_eq_ok heavy)
  · exact Or.inr (Shape.exists_mem_of_field_eq_ok line)
  · rcases Shape.eq_default_or_exists_mem_of_optionalField_eq_ok spaced with rfl | ⟨member, mem, h⟩
    · exact Or.inl rfl
    · unfold spacing at h
      split at h
      · exact Or.inl (Except.ok.inj h).symm
      · exact Or.inr ⟨member, mem, h⟩

/-- An accepted style is stored. -/
theorem stored_of_check {record : Entries Json} {style : TextStyle}
    (h : check record = .ok style) : style.Stored := by
  apply stored_of_numbers
  intro x mem
  rcases eq_zero_or_exists_mem_of_check h x mem with rfl | ⟨_, _, accepted⟩
  · exact Number.normalize_integer 0
  · exact Shape.normalize_of_number_eq_ok accepted

/-- The record of a stored style gives the style again. -/
theorem check_toMembers {style : TextStyle} (stored : style.Stored) :
    check style.toMembers = .ok style := by
  obtain ⟨family, size, weight, lineHeight, letterSpacing⟩ := style
  have sized := Shape.number_of_stored stored.size
  have heavy := Shape.number_of_stored stored.weight
  have line := Shape.number_of_stored stored.lineHeight
  simp only at sized heavy line
  cases zero : letterSpacing.isZero with
  | true =>
      obtain rfl := Number.eq_zero_of_isZero stored.letterSpacing zero
      have written : toMembers ⟨family, size, weight, lineHeight, .integer 0⟩ =
          [("fontFamily", .string family), ("fontSize", .number size),
            ("fontWeight", .number weight), ("lineHeight", .number lineHeight)] := rfl
      rw [written]
      simp [check, Shape.field, Shape.optionalField, Shape.given?, Entries.get?, Shape.string,
        sized, heavy, line, Except.map]
  | false =>
      have spaced : spacing (.number letterSpacing) = .ok letterSpacing := by
        rw [spacing, Json.isVacant, zero]
        exact Shape.number_of_stored stored.letterSpacing
      have written : toMembers ⟨family, size, weight, lineHeight, letterSpacing⟩ =
          [("fontFamily", .string family), ("fontSize", .number size),
            ("fontWeight", .number weight), ("lineHeight", .number lineHeight),
            ("letterSpacing", .number letterSpacing)] := by
        simp [toMembers, isSpaced, zero]
      rw [written]
      simp [check, Shape.field, Shape.optionalField, Shape.given?, Entries.get?, Shape.string,
        sized, heavy, line, spaced, Except.map]

end TextStyle

namespace GradientStop

/-- A stop as a record. -/
def toMembers (stop : GradientStop) : Entries Json :=
  [("position", .number stop.position), ("color", .string stop.color)]

theorem normalize_of_check {record : Entries Json} {stop : GradientStop}
    (h : check record = .ok stop) : stop.position.normalize = stop.position := by
  obtain ⟨_, color, one, _, rfl⟩ := Shape.exists_of_both_eq_ok h
  obtain ⟨position, placed, rfl⟩ := Shape.exists_of_map_eq_ok one
  obtain ⟨_, _, placed⟩ := Shape.exists_mem_of_field_eq_ok placed
  exact Shape.normalize_of_number_eq_ok placed

theorem check_toMembers {stop : GradientStop}
    (stored : stop.position.normalize = stop.position) : check stop.toMembers = .ok stop := by
  have placed := Shape.number_of_stored stored
  simp [check, toMembers, Shape.field, Shape.given?, Entries.get?, Shape.string, placed,
    Except.map]

end GradientStop

namespace Gradient

/-- All numbers of a gradient are in stored form. -/
structure Stored (gradient : Gradient) : Prop where
  rotation : gradient.rotation.normalize = gradient.rotation
  stops : ∀ stop ∈ gradient.stops, stop.position.normalize = stop.position

/-- A gradient as the value of a token. -/
def toPayload (gradient : Gradient) : Entries Json :=
  [("gradientType", .string gradient.kind), ("rotation", .number gradient.rotation),
    ("stops", .array (gradient.stops.map fun stop => .object stop.toMembers))]

/-- An accepted gradient is stored. -/
theorem stored_of_checkPayload {record : Entries Json} {gradient : Gradient}
    (h : checkPayload record = .ok gradient) : gradient.Stored := by
  obtain ⟨_, stops, two, listed, rfl⟩ := Shape.exists_of_both_eq_ok h
  obtain ⟨_, rotation, one, turned, rfl⟩ := Shape.exists_of_both_eq_ok two
  obtain ⟨kind, _, rfl⟩ := Shape.exists_of_map_eq_ok one
  obtain ⟨_, _, turned⟩ := Shape.exists_mem_of_field_eq_ok turned
  obtain ⟨⟨_, list⟩, _, listed⟩ := Shape.exists_mem_of_field_eq_ok listed
  refine ⟨Shape.normalize_of_number_eq_ok turned, fun stop mem => ?_⟩
  cases list with
  | array items =>
      obtain ⟨value, _, accepted⟩ := Shape.exists_mem_of_mem_itemsFrom listed stop mem
      cases value with
      | object members => exact GradientStop.normalize_of_check accepted
      | _ => cases accepted
  | _ => cases listed

/-- The payload of a stored gradient gives the gradient again. -/
theorem checkPayload_toPayload {gradient : Gradient} (stored : gradient.Stored) :
    checkPayload gradient.toPayload = .ok gradient := by
  obtain ⟨kind, rotation, stops⟩ := gradient
  have turned := Shape.number_of_stored stored.rotation
  have listed : Shape.itemsFrom 0 (Shape.record GradientStop.check)
      (stops.map fun stop => .object stop.toMembers) = .ok stops :=
    Shape.itemsFrom_map fun stop mem => GradientStop.check_toMembers (stored.stops stop mem)
  simp only at turned
  simp [checkPayload, toPayload, Shape.field, Shape.given?, Entries.get?, Shape.string,
    Shape.items, turned, listed, Except.map]

end Gradient

end DesignTokens
