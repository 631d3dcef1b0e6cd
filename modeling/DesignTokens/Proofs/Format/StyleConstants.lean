import DesignTokens.Model.Basic
import DesignTokens.Proofs.Key.Boundaries

/-!
# Constants of text styles

A constant that is made for a text style takes its name from the device, the locale and the
name of the style, without marks between them. The three parts are told apart where device and
locale are small words and the part of the style starts with something else, as a capital is.
-/

namespace DesignTokens.StyleEntry

/-- The styles have the same device, locale and name. -/
def SameKey (first second : StyleEntry) : Prop :=
  first.device = second.device ∧ first.locale = second.locale ∧ first.name = second.name

instance (first second : StyleEntry) : Decidable (first.SameKey second) :=
  inferInstanceAs (Decidable (_ ∧ _ ∧ _))

/-- The style has a small word for its device and one for its locale, and its own part does
not go on with the locale's word. -/
structure Separable (part : String → List Char) (entry : StyleEntry) : Prop where
  device : Key.SmallWord entry.device
  locale : Key.SmallWord entry.locale
  apart : Key.StartsOutside Key.isCompact (part entry.name)

instance (part : String → List Char) (entry : StyleEntry) : Decidable (entry.Separable part) :=
  decidable_of_iff
    (Key.SmallWord entry.device ∧ Key.SmallWord entry.locale ∧
      Key.StartsOutside Key.isCompact (part entry.name))
    ⟨fun ⟨device, locale, apart⟩ => ⟨device, locale, apart⟩,
      fun ⟨device, locale, apart⟩ => ⟨device, locale, apart⟩⟩

variable {part : String → List Char} {first second : StyleEntry}

/-- Behind the device, locales and parts are the same if they are so together. -/
theorem Separable.locale_inj (own : first.Separable part) (other : second.Separable part)
    (same : Text.upperFirst first.locale.toList ++ part first.name =
      Text.upperFirst second.locale.toList ++ part second.name) :
    first.locale = second.locale ∧ part first.name = part second.name :=
  own.locale.upperFirst_append_inj other.locale own.apart other.apart same

theorem Separable.startsOutside_locale (own : first.Separable part) :
    Key.StartsOutside Key.isCompact
      (Text.upperFirst first.locale.toList ++ part first.name) :=
  own.locale.startsOutside_upperFirst (part first.name)

end DesignTokens.StyleEntry

namespace DesignTokens

/-- Styles of two devices, one of them in two locales. -/
def ordinaryStyles : Model where
  colors := .nil
  typography := [
    ("mobile", [
      ("kr", [("title1-700", ⟨"Pretendard", .integer 24, .integer 700, .integer 32, .integer 0⟩),
        ("본문-400", ⟨"Pretendard", .integer 16, .integer 400, .integer 24, .integer 0⟩)]),
      ("en", [("title1-700", ⟨"Arial", .integer 24, .integer 700, .integer 32, .integer 0⟩)])]),
    ("desktop", [
      ("kr", [("title1-700", ⟨"Pretendard", .integer 32, .integer 700, .integer 40, .integer 0⟩)])])]
  gradients := none

end DesignTokens
