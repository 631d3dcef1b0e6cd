import DesignTokens.Format.PandaCss
import DesignTokens.Format.Scss
import DesignTokens.Format.VanillaExtract
import DesignTokens.Proofs.Model.LimitedNumbers
import DesignTokens.Proofs.Number.Characters
import DesignTokens.Proofs.Number.DistinctTexts
import DesignTokens.Proofs.Number.Order

/-!
# Font sizes and line heights of a model

Every font size and every line height of a model is listed once, in ascending order, and has a
key of its own in each format: its number, its label on the ladder of sizes, or its number with
a low line for the decimal mark.
-/

namespace DesignTokens

variable {sizes : List Number}

/-- Different stored numbers have different texts in a style sheet. -/
theorem nodup_cssTexts (stored : ∀ x ∈ sizes, x.normalize = x) (nodup : sizes.Nodup) :
    (sizes.map Number.cssText).Nodup :=
  nodup.map_on fun x first y second same =>
    Number.eq_of_cssText_eq (stored x first) (stored y second) same

namespace Scss

/-- A low line in the name of a font size stands for a decimal mark only. -/
theorem withMark_sizeName (size : Number) :
    String.ofList ((sizeName size).toList.map fun c => if c = '_' then '.' else c) =
      size.cssText := by
  have line := size.normalize.numberChars_text.not_mem (c := '_') (by decide)
  have kept : ∀ c ∈ size.cssText.toList,
      ((fun c => if c = '_' then '.' else c) ∘ fun c => if c = '.' then '_' else c) c = id c := by
    intro c mem
    by_cases mark : c = '.'
    · simp [mark]
    · have other : c ≠ '_' := fun same => line (same ▸ mem)
      simp [mark, other]
  rw [sizeName, String.toList_ofList, List.map_map, List.map_congr_left kept, List.map_id,
    String.ofList_toList]

/-- Different stored font sizes have different names. -/
theorem nodup_sizeNames (stored : ∀ x ∈ sizes, x.normalize = x) (nodup : sizes.Nodup) :
    (sizes.map sizeName).Nodup := by
  refine nodup.map_on fun x first y second same => ?_
  apply Number.eq_of_cssText_eq (stored x first) (stored y second)
  rw [← withMark_sizeName x, same, withMark_sizeName]

end Scss

namespace VanillaExtract

/-- Labels given by place: as many as there are of the given ones, and then those of the things
themselves. -/
theorem mapIdx_getD {α β γ : Type} (labels : List β) (label : α → β) (value : α → γ)
    (sizes : List α) :
    sizes.mapIdx (fun place size => (labels[place]?.getD (label size), value size)) =
      (labels.take sizes.length ++ (sizes.drop labels.length).map label).zip
        (sizes.map value) := by
  induction labels generalizing sizes with
  | nil =>
      rw [List.take_nil, List.nil_append, List.length_nil, List.drop_zero, List.zip_map']
      apply List.ext_getElem?
      intro place
      simp
  | cons first rest ih =>
      cases sizes with
      | nil => rfl
      | cons size more => simp [List.mapIdx_cons, ih]

/-- The labels of font sizes: the ladder as far as there are sizes, and then the numbers. -/
def scaleLabels (sizes : List Number) : List String :=
  sizeLabels.take sizes.length ++ (sizes.drop sizeLabels.length).map Number.cssText

/-- Every label of the ladder has a character that no number has. -/
theorem cssText_notMem_sizeLabels (size : Number) : size.cssText ∉ sizeLabels := by
  have lettered : ∀ label ∈ sizeLabels, ¬Number.NumberChars label.toList := by decide
  intro mem
  exact lettered _ mem size.normalize.numberChars_text

/-- No two font sizes have one label. -/
theorem nodup_scaleLabels (stored : ∀ x ∈ sizes, x.normalize = x) (nodup : sizes.Nodup) :
    (scaleLabels sizes).Nodup := by
  have ladder : sizeLabels.Nodup := by decide
  have texts : ((sizes.drop sizeLabels.length).map Number.cssText).Nodup :=
    nodup_cssTexts (fun x mem => stored x (List.mem_of_mem_drop mem))
      ((List.drop_sublist _ sizes).nodup nodup)
  refine List.nodup_append.mpr ⟨(List.take_sublist _ sizeLabels).nodup ladder, texts, ?_⟩
  rintro label here _ mem rfl
  obtain ⟨size, _, rfl⟩ := List.mem_map.mp mem
  exact cssText_notMem_sizeLabels size (List.mem_of_mem_take here)

theorem length_scaleLabels (sizes : List Number) : (scaleLabels sizes).length = sizes.length := by
  rw [scaleLabels, List.length_append, List.length_take, List.length_map, List.length_drop]
  omega

/-- Font sizes of distinct labels are all listed, in their order. -/
theorem sizeScale_of_nodup (nodup : (scaleLabels sizes).Nodup) :
    (sizeScale sizes).names = scaleLabels sizes ∧
      (sizeScale sizes).map Prod.snd = sizes.map Number.pixels := by
  have pairs : sizes.mapIdx (fun place size => (sizeLabel place size, size.pixels)) =
      (scaleLabels sizes).zip (sizes.map Number.pixels) :=
    mapIdx_getD sizeLabels Number.cssText Number.pixels sizes
  have count : (scaleLabels sizes).length = (sizes.map Number.pixels).length := by
    rw [length_scaleLabels, List.length_map]
  have keys := List.map_fst_zip count.le
  have listed : sizeScale sizes = (scaleLabels sizes).zip (sizes.map Number.pixels) := by
    rw [sizeScale, pairs]
    apply Entries.ofPairs_of_nodup
    rwa [keys]
  rw [listed]
  constructor
  · exact keys
  · exact List.map_snd_zip count.ge

end VanillaExtract

/-- Lengths under distinct texts are all listed, in their order. -/
theorem ofPairs_cssTexts {α : Type} (value : Number → α)
    (nodup : (sizes.map Number.cssText).Nodup) :
    Entries.ofPairs (sizes.map fun size => (size.cssText, value size)) =
      sizes.map fun size => (size.cssText, value size) := by
  apply Entries.ofPairs_of_nodup
  rwa [List.map_map]

/-- The font sizes and the line heights of a model in ascending order: nothing is lost and nothing
is listed twice. -/
structure SizesListed (model : Model) : Prop where
  sizes : model.sizes.Pairwise fun x y => x.lt y = true
  lineHeights : model.lineHeights.Pairwise fun x y => x.lt y = true
  givenSizes : ∀ x, x ∈ model.sizes ↔ ∃ entry ∈ model.styles, entry.style.size = x
  givenLineHeights :
    ∀ x, x ∈ model.lineHeights ↔ ∃ entry ∈ model.styles, entry.style.lineHeight = x

/-- What is written for the font sizes and the line heights of a model: each of them once, in
their order and under a key of its own. -/
structure SizesWritten (model : Model) : Prop where
  texts : ∀ x ∈ model.sizes ++ model.lineHeights, x.limitedText = .ok x.cssText
  scaleKeys : (VanillaExtract.sizeScale model.sizes).names =
    VanillaExtract.sizeLabels.take model.sizes.length ++
      (model.sizes.drop VanillaExtract.sizeLabels.length).map Number.cssText
  scaleValues :
    (VanillaExtract.sizeScale model.sizes).map Prod.snd = model.sizes.map Number.pixels
  scaleNodup : (VanillaExtract.sizeScale model.sizes).names.Nodup
  pandaSizes : PandaCss.sizeTokens model = model.sizes.map fun size =>
    (size.cssText, PandaCss.tokenRecord (.string size.pixels))
  pandaLineHeights : PandaCss.lineHeightTokens model = model.lineHeights.map fun height =>
    (height.cssText, PandaCss.tokenRecord (.string height.pixels))
  vanillaLineHeights : VanillaExtract.lineHeightMap model = model.lineHeights.map fun height =>
    (height.cssText, height.pixels)
  sizeTexts : (model.sizes.map Number.cssText).Nodup
  lineHeightTexts : (model.lineHeights.map Number.cssText).Nodup
  scssNames : (model.sizes.map Scss.sizeName).Nodup

section SizesKept

variable {model : Model}

/-- The distinct values of the styles of a model. -/
theorem distinctAscending_styles (value : TextStyle → Number)
    (proper : ∀ entry ∈ model.styles, (value entry.style).Proper) :
    let listed := Number.distinctAscending (model.styles.map fun entry => value entry.style)
    Number.Ascending listed ∧ (∀ x ∈ listed, x.Proper) ∧
      ∀ x, x ∈ listed ↔ ∃ entry ∈ model.styles, value entry.style = x := by
  have each : ∀ x ∈ model.styles.map fun entry => value entry.style, x.Proper :=
    List.forall_mem_map.mpr proper
  refine ⟨Number.ascending_distinctAscending each, fun x mem => ?_, fun x => ?_⟩
  · exact each x (Number.mem_distinctAscending_iff.mp mem)
  · rw [Number.mem_distinctAscending_iff, List.mem_map]

/-- The styles of a model that comes from a text were accepted by their check. -/
theorem Model.Loaded.exists_check (loaded : model.Loaded) :
    ∀ entry ∈ model.styles, ∃ record, TextStyle.check record = .ok entry.style := by
  intro entry mem
  obtain ⟨⟨device, locales⟩, here, inside⟩ := List.mem_flatMap.mp mem
  obtain ⟨⟨locale, styles⟩, there, listed⟩ := List.mem_flatMap.mp inside
  obtain ⟨⟨name, style⟩, found, rfl⟩ := List.mem_map.mp listed
  have sound := (((loaded.wellFormed.typography.each _ here).2.each _ there).2.each _ found)
  exact ⟨style.toMembers, TextStyle.check_toMembers sound.stored⟩

theorem Model.Limited.each_size (limited : model.Limited) :
    ∀ x ∈ model.sizes ++ model.lineHeights, x.Limited := by
  intro x mem
  rcases List.mem_append.mp mem with mem | mem
  · obtain ⟨entry, here, rfl⟩ := List.mem_map.mp (Number.mem_distinctAscending_iff.mp mem)
    exact limited.of_mem_styles here _ (by simp [TextStyle.numbers])
  · obtain ⟨entry, here, rfl⟩ := List.mem_map.mp (Number.mem_distinctAscending_iff.mp mem)
    exact limited.of_mem_styles here _ (by simp [TextStyle.numbers])

/-- Sizes are neither lost nor repeated in a model whose styles were accepted by their check and
have no size and no line height that is not a number. They are written if they keep to the limit
of digits, as they do in every model that comes from a text. -/
theorem sizes_kept (model : Model)
    (accepted : ∀ entry ∈ model.styles, ∃ record, TextStyle.check record = .ok entry.style)
    (numbers : ∀ entry ∈ model.styles,
      entry.style.size ≠ .real .nan ∧ entry.style.lineHeight ≠ .real .nan) :
    SizesListed model ∧
    ((∀ x ∈ model.sizes ++ model.lineHeights, x.Limited) → SizesWritten model) ∧
    (model.Loaded → ∀ x ∈ model.sizes ++ model.lineHeights, x.Limited) := by
  have stored : ∀ entry ∈ model.styles, entry.style.Stored := by
    intro entry mem
    obtain ⟨record, checked⟩ := accepted entry mem
    exact TextStyle.stored_of_check checked
  obtain ⟨sizes, sized, givenSizes⟩ := distinctAscending_styles TextStyle.size
    fun entry mem => ⟨(stored entry mem).size, (numbers entry mem).1⟩
  obtain ⟨heights, high, givenHeights⟩ := distinctAscending_styles TextStyle.lineHeight
    fun entry mem => ⟨(stored entry mem).lineHeight, (numbers entry mem).2⟩
  refine ⟨⟨sizes, heights, givenSizes, givenHeights⟩, ?written,
    fun loaded => loaded.limited.each_size⟩
  case written =>
    intro limited
    have storedSizes : ∀ x ∈ model.sizes, x.normalize = x := fun x mem => (sized x mem).stored
    have storedHeights : ∀ x ∈ model.lineHeights, x.normalize = x := fun x mem =>
      (high x mem).stored
    have sizeTexts := nodup_cssTexts storedSizes (sizes.nodup sized)
    have heightTexts := nodup_cssTexts storedHeights (heights.nodup high)
    have labels := VanillaExtract.nodup_scaleLabels storedSizes (sizes.nodup sized)
    obtain ⟨keys, values⟩ := VanillaExtract.sizeScale_of_nodup labels
    exact {
      texts := fun x mem => Number.limitedText_eq_ok (limited x mem)
      scaleKeys := keys
      scaleValues := values
      scaleNodup := keys ▸ labels
      pandaSizes := ofPairs_cssTexts _ sizeTexts
      pandaLineHeights := ofPairs_cssTexts _ heightTexts
      vanillaLineHeights := ofPairs_cssTexts _ heightTexts
      sizeTexts := sizeTexts
      lineHeightTexts := heightTexts
      scssNames := Scss.nodup_sizeNames storedSizes (sizes.nodup sized) }

end SizesKept

/-- A model with more font sizes than there are labels, and with a fraction as line height. -/
def tallModel : Model where
  colors := .nil
  typography := [("mobile", [("kr", (List.range 12).map fun n =>
    ("s" ++ toString n, ⟨"Inter", .integer (20 - n), .integer 400,
      .real (.finite false ⟨1023 * 2 ^ 52 + 2 ^ 51, by decide⟩), .integer 0⟩))])]
  gradients := none

theorem exists_check_tallModel :
    ∀ entry ∈ tallModel.styles, ∃ record, TextStyle.check record = .ok entry.style := by
  have stored : ∀ entry ∈ tallModel.styles, ∀ x ∈ entry.style.numbers, x.normalize = x := by
    decide +kernel
  intro entry mem
  exact ⟨_, TextStyle.check_toMembers (TextStyle.stored_of_numbers (stored entry mem))⟩

theorem sizes_kept_tallModel :
    SizesListed tallModel ∧ SizesWritten tallModel ∧
    SizesWritten (Export.model Model.quotedSections) ∧
    (VanillaExtract.sizeScale tallModel.sizes).names =
      ["xs", "sm", "md", "base", "lg", "xl", "2xl", "3xl", "4xl", "5xl", "19", "20"] ∧
    tallModel.lineHeights.map Number.cssText = ["1.5"] := by
  obtain ⟨listed, written, -⟩ := sizes_kept tallModel exists_check_tallModel (by decide +kernel)
  have loaded := Model.Loaded.ofExport Model.read_quotedText
  obtain ⟨-, quoted, limited⟩ := sizes_kept (Export.model Model.quotedSections)
    loaded.exists_check (by decide +kernel)
  have few : ∀ x ∈ tallModel.sizes ++ tallModel.lineHeights, x.Limited := by
    decide +kernel
  exact ⟨listed, written few, quoted (limited loaded), by decide +kernel, by decide +kernel⟩

end DesignTokens
