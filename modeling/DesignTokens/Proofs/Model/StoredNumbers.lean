import DesignTokens.Json.Printer
import DesignTokens.Proofs.Model.Validated
import DesignTokens.Proofs.Number.WholeTexts

/-!
# The numbers of validated models

Every number of a validated model is in lowest form: it is an integer, a double that is not whole,
or not finite. Style sheets and literals of generated code print numbers on their own, and they
print the finite numbers of a validated model alike, none of them with a zero fraction.
-/

namespace DesignTokens

namespace Number

variable {x : Number}

theorem normalize_of_not_isFinite (infinite : x.isFinite = false) : x.normalize = x := by
  cases x with
  | integer n => cases infinite
  | real double =>
      cases double with
      | finite negative rank => cases infinite
      | infinite negative => rfl
      | nan => rfl

theorem limitedText_normalize (x : Number) : x.normalize.limitedText = x.limitedText := by
  simp only [limitedText, normalize_normalize, cssText_normalize]

/-- A literal has the text of a finite number. -/
theorem numberLiteral_of_isFinite (finite : x.isFinite = true) :
    Json.numberLiteral x = x.text.toList := by
  cases x with
  | integer n => rfl
  | real double =>
      cases double with
      | finite negative rank => rfl
      | infinite negative => cases finite
      | nan => cases finite

/-- Both printers write a finite number in lowest form alike, without a zero fraction. -/
theorem Lowest.written (lowest : x.Lowest) (finite : x.isFinite = true) (layout : Json.Layout)
    (depth : Nat) :
    String.ofList (Json.write layout depth (.number x)) = x.cssText ∧
      ¬ ['.', '0'] <:+ x.cssText.toList := by
  rw [cssText_of_stored (lowest_iff_normalize_eq.mp lowest)]
  constructor
  · rw [Json.write, numberLiteral_of_isFinite finite, String.ofList_toList]
  · exact lowest.not_text_ends finite

end Number

theorem TextStyle.Stored.each {style : TextStyle} (stored : style.Stored) :
    ∀ x ∈ style.numbers, x.normalize = x := by
  intro x mem
  simp only [numbers, List.mem_cons, List.not_mem_nil, or_false] at mem
  rcases mem with rfl | rfl | rfl | rfl
  · exact stored.size
  · exact stored.weight
  · exact stored.lineHeight
  · exact stored.letterSpacing

namespace Gradient

/-- The numbers of a gradient. -/
def numbers (gradient : Gradient) : List Number :=
  gradient.rotation :: gradient.stops.map GradientStop.position

theorem Stored.each {gradient : Gradient} (stored : gradient.Stored) :
    ∀ x ∈ gradient.numbers, x.normalize = x := by
  intro x mem
  rcases List.mem_cons.mp mem with rfl | mem
  · exact stored.rotation
  · obtain ⟨stop, here, rfl⟩ := List.mem_map.mp mem
    exact stored.stops stop here

end Gradient

namespace Model

/-- The numbers of a model: those of its styles and those of its gradients. -/
def numbers (model : Model) : List Number :=
  model.styles.flatMap (fun entry => entry.style.numbers) ++
    model.gradientEntries.flatMap fun entry => entry.gradient.numbers

theorem Validated.lowest {model : Model} (valid : model.Validated) :
    ∀ x ∈ model.numbers, x.Lowest := by
  obtain ⟨styles, gradients⟩ := valid.stored
  intro x mem
  apply Number.lowest_iff_normalize_eq.mpr
  rcases List.mem_append.mp mem with mem | mem
  · obtain ⟨entry, here, own⟩ := List.mem_flatMap.mp mem
    exact (styles entry here).each x own
  · obtain ⟨entry, here, own⟩ := List.mem_flatMap.mp mem
    exact (gradients entry here).each x own

/-- The model of an export is validated, and the numbers of every validated model are in lowest
form, however they were given. Storing a number
again changes nothing, neither the number nor its text, and nothing is changed in what is not
finite. So each finite number of a validated model has one text in style sheets and in literals,
and no zero fraction ends it. -/
theorem numbers_lowest :
    (∀ sections, (Export.model sections).Validated) ∧
    (∀ model : Model, model.Validated → ∀ x ∈ model.numbers, x.Lowest ∧
      (x.isFinite = true → ∀ layout depth,
        String.ofList (Json.write layout depth (.number x)) = x.cssText ∧
        ¬ ['.', '0'] <:+ x.cssText.toList)) ∧
    ∀ x : Number, x.normalize.Lowest ∧ x.normalize.normalize = x.normalize ∧
      x.normalize.cssText = x.cssText ∧ x.normalize.limitedText = x.limitedText ∧
      (x.isFinite = false → x.normalize = x) := by
  refine ⟨validated_model, ?models, ?storing⟩
  case models =>
    intro model valid x mem
    have lowest := valid.lowest x mem
    exact ⟨lowest, lowest.written⟩
  case storing =>
    intro x
    have again := Number.normalize_normalize x
    exact ⟨Number.lowest_iff_normalize_eq.mpr again, again, Number.cssText_normalize x,
      Number.limitedText_normalize x, Number.normalize_of_not_isFinite⟩

/-- A double that is twenty-four, and one that is a half. -/
def wholeAndHalf : Number × Number :=
  (.real (.finite false ⟨4627448617123184640, by decide⟩),
    .real (.finite false ⟨4602678819172646912, by decide⟩))

/-- A style that gives its numbers in every way, under names of both forms. -/
def mixedStyle : Entries Json := [
  ("font_family", .string "Arial"), ("fontSize", .string " 16.00 "), ("font_weight", .bool true),
  ("lineHeight", .number wholeAndHalf.1), ("letter_spacing", .number wholeAndHalf.2)]

/-- A gradient that gives its numbers as texts. -/
def mixedGradient : Entries Json := [
  ("type", .string "linear"), ("rotation", .string "9e1"),
  ("stops", .array [.object [("position", .string "inf"), ("color", .string "#fff")]])]

/-- A record of a model with both. -/
def mixedRecord : Json :=
  .object [
    ("typography", .object [("mobile", .object [("kr", .object [("title", .object mixedStyle)])])]),
    ("gradients", .object [("default", .object [("dawn", .object mixedGradient)])])]

/-- The model that the record gives. -/
def mixedModel : Model where
  colors := .nil
  typography := [("mobile", [("kr", [("title",
    ⟨"Arial", .integer 16, .integer 1, .integer 24, wholeAndHalf.2⟩)])])]
  gradients := some [("default", [("dawn",
    ⟨"linear", .integer 90, [⟨.real (.infinite false), "#fff"⟩]⟩)])]

theorem numbers_lowest_mixedModel :
    check mixedRecord = .ok mixedModel ∧
    mixedModel.numbers = [.integer 16, .integer 1, .integer 24, wholeAndHalf.2, .integer 90,
      .real (.infinite false)] ∧
    wholeAndHalf.2.Lowest ∧ wholeAndHalf.2.cssText = "0.5" ∧
    Json.literal "" (.number wholeAndHalf.2) = "0.5" := by
  have given : check mixedRecord = .ok mixedModel := by
    have style : TextStyle.check mixedStyle =
        .ok ⟨"Arial", .integer 16, .integer 1, .integer 24, wholeAndHalf.2⟩ := by
      decide +kernel
    have gradient : Gradient.check mixedGradient =
        .ok ⟨"linear", .integer 90, [⟨.real (.infinite false), "#fff"⟩]⟩ := by
      decide +kernel
    simp [check, mixedRecord, Shape.record, checkFields, Shape.optionalField, Shape.given?,
      Entries.get?, checkTypography, withoutEmptyDevices, withoutEmptyLocales, isEmptyObject,
      Shape.mapping, Shape.values, style, checkGradients, gradient, Except.map, mixedModel]
  have half : wholeAndHalf.2.cssText = "0.5" := by
    decide +kernel
  obtain ⟨lowest, written⟩ := numbers_lowest.2.1 mixedModel (.ofRecord given) wholeAndHalf.2
    (by simp [numbers, styles, mixedModel, TextStyle.numbers])
  exact ⟨given, rfl, lowest, half, (written rfl _ _).1.trans half⟩

end Model

end DesignTokens
