import DesignTokens.Json.Printer
import DesignTokens.Proofs.Json.Margins
import DesignTokens.Proofs.Model.WellFormed

/-!
# Literals of a model lose nothing

Generated code holds the colors and the text styles of a model as literals, with a margin of
blanks that lines them up with the code around them. Both are read back from their literals,
with every name in its place. A letter spacing of zero is left out of a literal and comes back
when the styles are checked again.
-/

namespace DesignTokens.Model

/-- A model that comes from a text, which holds an export or a record of the model's fields. No
document is left out, since each one is read from the text that is written for it. -/
inductive Loaded : Model → Prop where
  | ofExport {text : List Char} {sections : Entries Json}
      (held : Json.read text = .ok (.object sections)) : Loaded (Export.model sections)
  | ofRecord {text : List Char} {value : Json} {model : Model}
      (held : Json.read text = .ok value) (given : check value = .ok model) : Loaded model

theorem Loaded.wellFormed {model : Model} (loaded : model.Loaded) : model.WellFormed := by
  cases loaded with
  | ofExport held => exact Export.wellFormed_model (Json.isDocument_of_read held)
  | ofRecord held given => exact wellFormed_of_check (Json.isDocument_of_read held) given

section Typography

/-- The styles of a locale as records. -/
def stylesJson (styles : Entries TextStyle) : Json :=
  .object (styles.mapValues fun style => .object style.toMembers)

/-- The locales of a device as records. -/
def localesJson (locales : Entries (Entries TextStyle)) : Json :=
  .object (locales.mapValues stylesJson)

theorem typographyJson_eq (model : Model) :
    model.typographyJson = .object (model.typography.mapValues localesJson) := rfl

variable {model : Model}

theorem isDocument_typographyJson (sound : SoundTypography model.typography) :
    model.typographyJson.IsDocument := by
  rw [typographyJson_eq]
  refine Json.isDocument_mapValues sound fun device here => ?_
  have locales := (sound.each device here).2
  refine Json.isDocument_mapValues locales fun locale mem => ?_
  have styles := (locales.each locale mem).2
  exact Json.isDocument_mapValues styles fun style found =>
    TextStyle.isDocument_toMembers (styles.each style found).limited

theorem withoutEmptyLocales_mapValues {locales : Entries (Entries TextStyle)}
    (occupied : ∀ locale ∈ locales, locale.2 ≠ []) :
    withoutEmptyLocales (locales.mapValues stylesJson) = locales.mapValues stylesJson := by
  rw [withoutEmptyLocales, List.filter_eq_self]
  intro entry mem
  obtain ⟨⟨name, styles⟩, here, rfl⟩ := List.mem_map.mp mem
  cases styles with
  | nil => exact absurd rfl (occupied _ here)
  | cons style rest => rfl

/-- No locale that has a style is dropped, and no device that has a locale. -/
theorem withoutEmptyDevices_mapValues {devices : Entries (Entries (Entries TextStyle))}
    (sound : SoundTypography devices) :
    withoutEmptyDevices (devices.mapValues localesJson) = devices.mapValues localesJson := by
  rw [withoutEmptyDevices, Entries.mapValues, List.filterMap_map, ← List.filterMap_eq_map]
  refine List.filterMap_congr fun device mem => ?_
  obtain ⟨some_locale, locales⟩ := sound.each device mem
  have kept := withoutEmptyLocales_mapValues fun locale here => (locales.each locale here).1
  simp only [Function.comp_apply, localesJson, kept]
  cases found : device.2 with
  | nil => exact absurd found some_locale
  | cons locale rest => rfl

/-- The records of sound styles are accepted as the styles. -/
theorem checkTypography_typographyJson (sound : SoundTypography model.typography) :
    checkTypography model.typographyJson = .ok model.typography := by
  rw [typographyJson_eq, checkTypography]
  simp only [withoutEmptyDevices_mapValues sound]
  refine Shape.values_mapValues fun device here => ?_
  have locales := (sound.each device here).2
  refine Shape.values_mapValues fun locale mem => ?_
  have styles := (locales.each locale mem).2
  exact Shape.values_mapValues fun style found =>
    TextStyle.check_toMembers (styles.each style found).stored

end Typography

/-- A margin of blanks. -/
def blanks (width : Nat) : String :=
  String.ofList (List.replicate width ' ')

theorem read_literal_blanks (width : Nat) {value : Json} (document : value.IsDocument) :
    Json.read (Json.literal (blanks width) value).toList = .ok value := by
  have blank : ∀ c ∈ (blanks width).toList, Json.isSpace c = true := by
    intro c mem
    rw [blanks, String.toList_ofList] at mem
    rw [List.eq_of_mem_replicate mem]
    rfl
  rw [Json.literal, Json.literalWith, String.toList_ofList]
  exact Json.read_write blank document 0

/-- The literals of a model are read back, though a margin of blanks is put behind each of their
line feeds: the colors as they are, and the text styles by the check of the field that holds
them. -/
theorem literals_read_back (model : Model) (loaded : model.Loaded) (width : Nat) :
    (∀ value, (Json.literal (blanks width) value).toList =
      Json.withMargin (blanks width).toList (Json.literal "" value).toList) ∧
    Json.read (Json.literal (blanks width) model.colors.toJson).toList =
      .ok model.colors.toJson ∧
    checkColors model.colors.toJson = .ok model.colors ∧
    ∃ value, Json.read (Json.literal (blanks width) model.typographyJson).toList = .ok value ∧
      checkTypography value = .ok model.typography := by
  obtain ⟨colors, readable, sound⟩ := loaded.wellFormed
  refine ⟨Json.literal_eq_withMargin _, read_literal_blanks width colors,
    congrArg Except.ok readable, model.typographyJson, ?_, checkTypography_typographyJson sound⟩
  exact read_literal_blanks width (isDocument_typographyJson sound)

/-- An export with a color, a style without letter spacing and a style with a fraction. -/
def quotedSections : Entries Json := [
  ("color", .object [("sky \"blue\"", Export.leafNode "color" (.string "#0af\n"))]),
  ("font", .object [("mobile", .object [("kr", .object [
    ("title\n\"1\"", Export.leafNode "custom-fontStyle" (.object [
      ("fontFamily", .string "Pretendard \\ é"), ("fontSize", .string "16"),
      ("fontWeight", .number (.integer 700)), ("lineHeight", .number (.integer 24)),
      ("letterSpacing", .null)])),
    ("body", Export.leafNode "custom-fontStyle" (.object [
      ("fontFamily", .string "Inter"), ("fontSize", .number (.integer 14)),
      ("fontWeight", .number (.integer 400)), ("lineHeight", .number (.integer 20)),
      ("letterSpacing", .number (.real (.finite true ⟨1022 * 2 ^ 52, by decide⟩)))]))])])])]

/-- The text of the export, without a margin. -/
def quotedText : List Char :=
  Json.write ⟨[], 2⟩ 0 (.object quotedSections)

theorem isDocument_quotedSections : (Json.object quotedSections).IsDocument := by
  have limited : ∀ n ∈ [700, 24, 14, 400, 20],
      (Number.digitsOf n).length ≤ Number.digitLimit := by decide
  simpa [quotedSections, Export.leafNode, Json.IsDocument, Json.NamesDistinct,
    Json.NumberLimited, Number.Limited, and_assoc] using limited

theorem read_quotedText : Json.read quotedText = .ok (.object quotedSections) :=
  Json.read_write (by simp) isDocument_quotedSections 0

theorem literals_read_back_quotedSections :
    (Export.model quotedSections).typography = [("mobile", [("kr", [
      ("title\n\"1\"", ⟨"Pretendard \\ é", .integer 16, .integer 700, .integer 24, .integer 0⟩),
      ("body", ⟨"Inter", .integer 14, .integer 400, .integer 20,
        .real (.finite true ⟨1022 * 2 ^ 52, by decide⟩)⟩)])])] ∧
    ∃ value, Json.read (Json.literal (blanks 2)
        (Export.model quotedSections).typographyJson).toList = .ok value ∧
      checkTypography value = .ok (Export.model quotedSections).typography :=
  ⟨by decide +kernel, (literals_read_back (Export.model quotedSections)
    (.ofExport read_quotedText) 2).2.2.2⟩

end DesignTokens.Model
