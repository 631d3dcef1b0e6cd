import DesignTokens.Format.PandaCss
import DesignTokens.Format.VanillaExtract
import DesignTokens.Proofs.Number.DistinctTexts
import DesignTokens.Proofs.Number.Order
import DesignTokens.Proofs.StoredTokens
import Mathlib.Data.List.TFAE

/-!
# Letter spacing in every format

Whether the letters of a style are spaced is decided by its record alone: by the value under the
name in camel case or, where that is missing, in snake case. Declarations, records, token records
and recipes all state a letter spacing then, and they state the same one.
-/

namespace DesignTokens

namespace Number

theorem Binary64.natAbs_truncate (negative : Bool) (rank : Fin rankLimit) :
    (finite negative rank).truncate.natAbs = units rank / unitsPerOne := by
  have magnitude : (((units rank / unitsPerOne : Nat) : Int)).natAbs = units rank / unitsPerOne :=
    Int.natAbs_natCast _
  cases negative with
  | false => exact magnitude
  | true => exact (Int.natAbs_neg _).trans magnitude

theorem Binary64.truncate_eq_zero_iff {negative : Bool} {rank : Fin rankLimit}
    (whole : (finite negative rank).isWhole = true) :
    (finite negative rank).truncate = 0 ↔ rank.val = 0 := by
  rw [isWhole, beq_iff_eq] at whole
  have parts := Nat.div_add_mod (units rank) unitsPerOne
  rw [whole, Nat.add_zero] at parts
  rw [← Int.natAbs_eq_zero, natAbs_truncate]
  constructor
  · intro below
    apply units_injective
    rw [units_zero, ← parts, below, Nat.mul_zero]
  · intro least
    rw [least, units_zero, Nat.zero_div]

/-- Stored forms keep whether a number is zero. -/
theorem isZero_normalize (x : Number) : x.normalize.isZero = x.isZero := by
  cases x with
  | integer n => rfl
  | real y =>
      cases whole : y.toInt? with
      | none => rw [normalize, whole]
      | some n =>
          cases y with
          | finite negative rank =>
              obtain ⟨integral, same⟩ := Option.ite_none_right_eq_some.mp whole
              obtain rfl := Option.some.inj same
              rw [normalize, whole, Bool.eq_iff_iff, isZero, isZero, Binary64.isZero,
                beq_iff_eq, beq_iff_eq]
              exact Binary64.truncate_eq_zero_iff integral
          | infinite negative => cases whole
          | nan => cases whole

end Number

namespace TextStyle

/-- What a record gives as the letter spacing where letters are not spaced: nothing, a value that
stands for nothing, or a zero, which may be given as a text. -/
inductive GivesNoSpacing : Option Json → Prop where
  | absent : GivesNoSpacing none
  | null : GivesNoSpacing (some .null)
  | falsity : GivesNoSpacing (some (.bool false))
  | emptyText : GivesNoSpacing (some (.string ""))
  | emptyArray : GivesNoSpacing (some (.array []))
  | emptyObject : GivesNoSpacing (some (.object []))
  | zero {x : Number} (zero : x.isZero = true) : GivesNoSpacing (some (.number x))
  | zeroText {text : String} {x : Number} (read : Number.ofText? text = some x)
      (zero : x.isZero = true) : GivesNoSpacing (some (.string text))

/-- The value that a record gives as the letter spacing. -/
def spacingGiven? (record : Entries Json) : Option Json :=
  (record.get? "letterSpacing").or (record.get? "letter_spacing")

variable {record : Entries Json} {style : TextStyle} {value : Json} {x : Number}

theorem given?_spacing (record : Entries Json) :
    Shape.given? ["letterSpacing", "letter_spacing"] record = spacingGiven? record := by
  cases camel : record.get? "letterSpacing" <;> cases snake : record.get? "letter_spacing" <;>
    simp [Shape.given?, spacingGiven?, camel, snake]

/-- A value that stands for nothing gives no letter spacing. -/
theorem givesNoSpacing_of_isVacant (vacant : value.isVacant = true) :
    GivesNoSpacing (some value) := by
  cases value with
  | null => exact .null
  | bool b =>
      cases b with
      | false => exact .falsity
      | true => cases vacant
  | number y => exact .zero vacant
  | string text =>
      obtain rfl := String.isEmpty_iff.mp vacant
      exact .emptyText
  | array items =>
      cases items with
      | nil => exact .emptyArray
      | cons item rest => cases vacant
  | object members =>
      cases members with
      | nil => exact .emptyObject
      | cons member rest => cases vacant

/-- Of the values that stand for something, zeros alone give no letter spacing. -/
theorem isZero_iff_of_number (solid : value.isVacant = false)
    (accepted : Shape.number value = .ok x) :
    x.isZero = true ↔ GivesNoSpacing (some value) := by
  cases value with
  | null => cases solid
  | bool b =>
      cases b with
      | false => cases solid
      | true =>
          cases accepted
          exact iff_of_false (by decide) (by rintro ⟨⟩)
  | number y =>
      cases accepted
      rw [Number.isZero_normalize]
      constructor
      · exact .zero
      · intro given
        cases given with
        | zero own => exact own
  | string text =>
      rw [Shape.number] at accepted
      cases read : Number.ofText? text with
      | none =>
          rw [read] at accepted
          cases accepted
      | some y =>
          rw [read] at accepted
          cases accepted
          rw [Number.isZero_normalize]
          constructor
          · exact .zeroText read
          · intro given
            cases given with
            | emptyText => cases solid
            | zeroText other zero =>
                rw [read, Option.some.injEq] at other
                exact other ▸ zero
  | array items => cases accepted
  | object members => cases accepted

/-- An accepted letter spacing is zero exactly for the values that give none. -/
theorem isZero_iff_of_spacing (accepted : spacing value = .ok x) :
    x.isZero = true ↔ GivesNoSpacing (some value) := by
  rw [spacing] at accepted
  split at accepted
  case isTrue vacant =>
      cases accepted
      exact iff_of_true rfl (givesNoSpacing_of_isVacant vacant)
  case isFalse solid => exact isZero_iff_of_number (Bool.eq_false_iff.mpr solid) accepted

/-- The letter spacing of an accepted style is the one that its record gives. -/
theorem spacing_of_check (accepted : check record = .ok style) :
    (spacingGiven? record = none ∧ style.letterSpacing = .integer 0) ∨
      ∃ value, spacingGiven? record = some value ∧ spacing value = .ok style.letterSpacing := by
  obtain ⟨_, letterSpacing, four, spaced, rfl⟩ := Shape.exists_of_both_eq_ok accepted
  obtain ⟨_, _, three, _, rfl⟩ := Shape.exists_of_both_eq_ok four
  obtain ⟨_, _, two, _, rfl⟩ := Shape.exists_of_both_eq_ok three
  obtain ⟨_, _, one, _, rfl⟩ := Shape.exists_of_both_eq_ok two
  obtain ⟨_, _, rfl⟩ := Shape.exists_of_map_eq_ok one
  rw [Shape.optionalField, given?_spacing] at spaced
  cases given : spacingGiven? record with
  | none =>
      rw [given] at spaced
      exact Or.inl ⟨rfl, (Except.ok.inj spaced).symm⟩
  | some value =>
      rw [given] at spaced
      exact Or.inr ⟨value, rfl, Shape.eq_ok_of_below_eq_ok spaced⟩

/-- Letters are not spaced exactly where the record gives no letter spacing. -/
theorem isZero_iff_of_check (accepted : check record = .ok style) :
    style.letterSpacing.isZero = true ↔ GivesNoSpacing (spacingGiven? record) := by
  rcases spacing_of_check accepted with ⟨given, none⟩ | ⟨value, given, spaced⟩
  · rw [given, none]
    exact iff_of_true rfl .absent
  · rw [given]
    exact isZero_iff_of_spacing spaced

/-- A letter spacing that is not zero is the number that the record gives. -/
theorem number_of_spacing (accepted : spacing value = .ok x) (spaced : x.isZero = false) :
    Shape.number value = .ok x := by
  rw [spacing] at accepted
  split at accepted
  case isTrue =>
      cases accepted
      cases spaced
  case isFalse => exact accepted

end TextStyle

/-- The value of a member of a value. -/
def Json.member? (name : String) (value : Json) : Option Json :=
  value.members?.bind fun members => members.get? name

/-- The letter spacing of the token record of a style. -/
def PandaCss.spacing? (style : TextStyle) : Option Json :=
  ((textStyle style).member? "value").bind (Json.member? "letterSpacing")

/-- The same letter spacing, or none, is stated for a style by its declarations, its record, its
token record and its recipe. -/
structure StatesSpacing (style : TextStyle) (stated : Option Number) : Prop where
  declarations : ∀ indent amount,
    indent ++ "letter-spacing: " ++ amount ++ ";" ∈ Css.declarations indent style ↔
      ∃ x, stated = some x ∧ amount = x.pixels
  record : style.toMembers.get? "letterSpacing" = stated.map .number
  token : PandaCss.spacing? style = stated.map fun x => .string x.pixels
  recipe : ∀ amount, "  letterSpacing: '" ++ amount ++ "'," ∈ VanillaExtract.recipeLines style ↔
    ∃ x, stated = some x ∧ amount = x.pixels

section StatesSpacing

variable {record : Entries Json} {style : TextStyle}

/-- A declaration of another property is not one of a letter spacing. -/
theorem spacing_declaration_mem_iff (indent amount : String) (style : TextStyle) :
    indent ++ "letter-spacing: " ++ amount ++ ";" ∈ Css.declarations indent style ↔
      style.isSpaced = true ∧ amount = style.letterSpacing.pixels := by
  rw [← List.mem_map_of_injective fun _ _ => String.toList_injective]
  cases spaced : style.isSpaced <;>
    simp [Css.declarations, spaced, String.toList_inj]

theorem spacing_recipeLine_mem_iff (amount : String) (style : TextStyle) :
    "  letterSpacing: '" ++ amount ++ "'," ∈ VanillaExtract.recipeLines style ↔
      style.isSpaced = true ∧ amount = style.letterSpacing.pixels := by
  rw [← List.mem_map_of_injective fun _ _ => String.toList_injective]
  cases spaced : style.isSpaced <;>
    simp [VanillaExtract.recipeLines, spaced, String.toList_inj]

/-- Where letters are not spaced, no format states a letter spacing. -/
theorem statesSpacing_none (zero : style.letterSpacing.isZero = true) :
    StatesSpacing style none := by
  have unspaced : style.isSpaced = false := by rw [TextStyle.isSpaced, zero, Bool.not_true]
  constructor
  · intro indent amount
    simp [spacing_declaration_mem_iff, unspaced]
  · simp [TextStyle.toMembers, unspaced, Entries.get?]
  · simp [PandaCss.spacing?, PandaCss.textStyle, PandaCss.tokenRecord, Json.member?,
      Json.members?, Entries.get?, unspaced]
  · intro amount
    simp [spacing_recipeLine_mem_iff, unspaced]

/-- Where letters are spaced, every format states the letter spacing. -/
theorem statesSpacing_some (spaced : style.letterSpacing.isZero = false) :
    StatesSpacing style (some style.letterSpacing) := by
  have stated : style.isSpaced = true := by rw [TextStyle.isSpaced, spaced, Bool.not_false]
  constructor
  · intro indent amount
    simp [spacing_declaration_mem_iff, stated]
  · simp [TextStyle.toMembers, stated, Entries.get?]
  · simp [PandaCss.spacing?, PandaCss.textStyle, PandaCss.tokenRecord, Json.member?,
      Json.members?, Entries.get?, stated]
  · intro amount
    simp [spacing_recipeLine_mem_iff, stated]

/-- Letter spacing means the same in every format. The letter spacing of an accepted style is
not zero exactly where each format states one, and exactly where the record of the style gives
one; then all state the number that is given, whose text is read back as the number. -/
theorem letterSpacing_agrees (record : Entries Json) (style : TextStyle)
    (accepted : TextStyle.check record = .ok style) (indent : String) :
    [style.letterSpacing.isZero = false,
      ∃ amount, indent ++ "letter-spacing: " ++ amount ++ ";" ∈ Css.declarations indent style,
      style.toMembers.has "letterSpacing" = true,
      (PandaCss.spacing? style).isSome = true,
      ∃ amount, "  letterSpacing: '" ++ amount ++ "'," ∈ VanillaExtract.recipeLines style,
      ¬TextStyle.GivesNoSpacing (TextStyle.spacingGiven? record)].TFAE ∧
    (style.letterSpacing.isZero = false →
      StatesSpacing style (some style.letterSpacing) ∧
      (∃ value, TextStyle.spacingGiven? record = some value ∧
        Shape.number value = .ok style.letterSpacing) ∧
      (style.letterSpacing.isFinite = true →
        Number.scan style.letterSpacing.cssText.toList = some (style.letterSpacing, []))) := by
  have given := TextStyle.isZero_iff_of_check accepted
  constructor
  · apply List.tfae_of_forall (style.letterSpacing.isZero = false)
    simp only [List.forall_mem_cons, Entries.has, ← given]
    cases zero : style.letterSpacing.isZero with
    | true =>
        have stated := statesSpacing_none zero
        simp [stated.declarations, stated.record, stated.token, stated.recipe]
    | false =>
        have stated := statesSpacing_some zero
        simp [stated.declarations, stated.record, stated.token, stated.recipe]
  · intro spaced
    refine ⟨statesSpacing_some spaced, ?_, fun finite => ?_⟩
    · rcases TextStyle.spacing_of_check accepted with ⟨_, none⟩ | ⟨value, found, checked⟩
      · rw [none] at spaced
        cases spaced
      · exact ⟨value, found, TextStyle.number_of_spacing checked spaced⟩
    · rw [Number.cssText_of_stored (TextStyle.stored_of_check accepted).letterSpacing]
      exact Number.scan_text_of_isFinite finite

end StatesSpacing

/-- A record that gives a letter spacing as a text, under the name in snake case. -/
def spacedRecord : Entries Json :=
  [("fontFamily", .string "Inter"), ("fontSize", .number (.integer 16)),
    ("fontWeight", .number (.integer 400)), ("lineHeight", .number (.integer 24)),
    ("letter_spacing", .string " -0.5 ")]

theorem letterSpacing_agrees_spacedRecord :
    ∃ style, TextStyle.check spacedRecord = .ok style ∧
      "  letter-spacing: -0.5px;" ∈ Css.declarations "  " style ∧
      ¬TextStyle.GivesNoSpacing (TextStyle.spacingGiven? spacedRecord) := by
  have accepted : TextStyle.check spacedRecord = .ok ⟨"Inter", .integer 16, .integer 400,
      .integer 24, .real (.finite true ⟨1022 * 2 ^ 52, by decide⟩)⟩ := by decide +kernel
  have agrees := letterSpacing_agrees spacedRecord _ accepted "  "
  exact ⟨_, accepted, by decide +kernel, (agrees.1.out 0 5).mp (by decide +kernel)⟩

end DesignTokens
