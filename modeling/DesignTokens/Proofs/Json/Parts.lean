import DesignTokens.Json.Basic
import Mathlib.Data.List.Nodup

/-!
# The parts of a value

A value consists of its items or of the values of its members, and these of their own parts.
A property that holds throughout a value holds of the value and of everything in it.
-/

namespace DesignTokens.Json

/-- Induction on the parts of a value. -/
@[elab_as_elim]
theorem partInduction {motive : Json → Prop} (null : motive .null)
    (bool : ∀ b, motive (.bool b)) (number : ∀ x, motive (.number x))
    (string : ∀ s, motive (.string s))
    (array : ∀ items, (∀ item ∈ items, motive item) → motive (.array items))
    (object : ∀ members, (∀ member ∈ members, motive member.2) → motive (.object members))
    (value : Json) : motive value := by
  refine Json.rec (motive_1 := motive) (motive_2 := fun items => ∀ item ∈ items, motive item)
    (motive_3 := fun members => ∀ member ∈ members, motive member.2)
    (motive_4 := fun member => motive member.2)
    null bool number string array object ?noItem ?item ?noMember ?member ?pair value
  case noItem => exact fun _ mem => absurd mem List.not_mem_nil
  case item =>
    intro item rest own others other mem
    rcases List.mem_cons.mp mem with rfl | mem
    · exact own
    · exact others other mem
  case noMember => exact fun _ mem => absurd mem List.not_mem_nil
  case member =>
    intro member rest own others other mem
    rcases List.mem_cons.mp mem with rfl | mem
    · exact own
    · exact others other mem
  case pair => exact fun _ _ own => own

/-- A property of a value and of everything in it. -/
inductive Throughout (own : Json → Prop) : Json → Prop where
  | null : own .null → Throughout own .null
  | bool (b : Bool) : own (.bool b) → Throughout own (.bool b)
  | number (x : Number) : own (.number x) → Throughout own (.number x)
  | string (s : String) : own (.string s) → Throughout own (.string s)
  | array (items : List Json) : own (.array items) →
      (∀ item ∈ items, Throughout own item) → Throughout own (.array items)
  | object (members : List (String × Json)) : own (.object members) →
      (∀ member ∈ members, Throughout own member.2) → Throughout own (.object members)

namespace Throughout

variable {own : Json → Prop}

theorem self {value : Json} (h : value.Throughout own) : own value := by
  cases h <;> assumption

theorem item {items : List Json} (h : (Json.array items).Throughout own) :
    ∀ item ∈ items, item.Throughout own := by
  cases h with
  | array _ _ each => exact each

theorem member {members : List (String × Json)} (h : (Json.object members).Throughout own) :
    ∀ member ∈ members, member.2.Throughout own := by
  cases h with
  | object _ _ each => exact each

theorem mono {weaker : Json → Prop} (imp : ∀ value, own value → weaker value) {value : Json}
    (h : value.Throughout own) : value.Throughout weaker := by
  induction h with
  | null h => exact .null (imp _ h)
  | bool b h => exact .bool b (imp _ h)
  | number x h => exact .number x (imp _ h)
  | string s h => exact .string s (imp _ h)
  | array items h _ ih => exact .array items (imp _ h) ih
  | object members h _ ih => exact .object members (imp _ h) ih

/-- What is below a value has what holds throughout the value. -/
theorem deep {value : Json} (h : value.Throughout own) :
    value.Throughout (Throughout own) := by
  induction h with
  | null h => exact .null (.null h)
  | bool b h => exact .bool b (.bool b h)
  | number x h => exact .number x (.number x h)
  | string s h => exact .string s (.string s h)
  | array items h each ih => exact .array items (.array items h each) ih
  | object members h each ih => exact .object members (.object members h each) ih

end Throughout

/-- What holds of every value holds throughout each. -/
theorem throughout_of_forall {own : Json → Prop} (all : ∀ value, own value) (value : Json) :
    value.Throughout own := by
  induction value using partInduction with
  | null => exact .null (all _)
  | bool b => exact .bool b (all _)
  | number x => exact .number x (all _)
  | string s => exact .string s (all _)
  | array items ih => exact .array items (all _) ih
  | object members ih => exact .object members (all _) ih

section

variable {own : Json → Prop}

@[simp] theorem throughout_null : Throughout own .null ↔ own .null := ⟨Throughout.self, .null⟩

@[simp] theorem throughout_bool (b : Bool) : Throughout own (.bool b) ↔ own (.bool b) :=
  ⟨Throughout.self, .bool b⟩

@[simp] theorem throughout_number (x : Number) : Throughout own (.number x) ↔ own (.number x) :=
  ⟨Throughout.self, .number x⟩

@[simp] theorem throughout_string (s : String) : Throughout own (.string s) ↔ own (.string s) :=
  ⟨Throughout.self, .string s⟩

@[simp] theorem throughout_array (items : List Json) :
    Throughout own (.array items) ↔
      own (.array items) ∧ ∀ item ∈ items, item.Throughout own :=
  ⟨fun h => ⟨h.self, h.item⟩, fun h => .array items h.1 h.2⟩

@[simp] theorem throughout_object (members : List (String × Json)) :
    Throughout own (.object members) ↔
      own (.object members) ∧ ∀ member ∈ members, member.2.Throughout own :=
  ⟨fun h => ⟨h.self, h.member⟩, fun h => .object members h.1 h.2⟩

end

/-- The names of an object are distinct. -/
def NamesDistinct : Json → Prop
  | .object members => (members.map Prod.fst).Nodup
  | _ => True

/-- No object of a value has a name twice. -/
def Distinct (value : Json) : Prop :=
  value.Throughout NamesDistinct

end DesignTokens.Json
