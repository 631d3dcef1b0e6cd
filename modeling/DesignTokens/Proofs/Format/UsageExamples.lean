import DesignTokens.Format.Generate
import DesignTokens.Proofs.Format.Artifacts
import DesignTokens.Proofs.Format.ExampleLines
import DesignTokens.Proofs.Format.MixinNames
import DesignTokens.Proofs.Format.StyleNames

/-!
# Usage examples

The examples of a format derive the names that they use on their own, apart from the files that
define them. Each of these names is one that a file of the same run defines, and none is used
where none is defined: the path of a style is one of the tree of styles, the path of a color one
of the colors, and a mixin one that is declared in the text of the mixins.

## Implementation notes

What an example uses is read off the text of its file, as `Script.Uses` of the lines that may hold
a name, and is given as a `SampleOf` what is defined. So a name that is missing from the example
and one that is not defined are both ruled out. Hyphens are dropped from the names of styles on
both sides, so an example may name the entry of a later style of this name.
-/

namespace DesignTokens

section Samples

variable {α : Type} {sample? : Option α} {items : List α}

/-- One of the items, or nothing if there are no items. -/
def SampleOf : Option α → List α → Prop
  | none, items => items = []
  | some item, items => item ∈ items

theorem sampleOf_head? (items : List α) : SampleOf items.head? items := by
  cases items with
  | nil => rfl
  | cons first rest => exact List.mem_cons_self

theorem sampleOf_getLast? (items : List α) : SampleOf items.getLast? items := by
  cases last : items.getLast? with
  | none => exact List.getLast?_eq_none_iff.mp last
  | some item => exact List.mem_of_getLast? last

theorem sampleOf_singleton {item : α} (sampled : SampleOf sample? [item]) :
    sample? = some item := by
  cases sample? with
  | none => cases sampled
  | some other => exact congrArg some (List.mem_singleton.mp sampled)

/-- A sample of a list is one of every list with the same members. -/
theorem SampleOf.of_mem_iff {others : List α} (sampled : SampleOf sample? items)
    (same : ∀ item, item ∈ others ↔ item ∈ items) : SampleOf sample? others := by
  cases sample? with
  | none =>
      have empty : items = [] := sampled
      rw [empty] at same
      exact List.eq_nil_iff_forall_not_mem.mpr fun item mem =>
        List.not_mem_nil ((same item).mp mem)
  | some item => exact (same item).mpr sampled

end Samples

/-- The text of a file among the files of a run, if it is written. -/
def contentIn? (files : List Artifact) (filename : String) : Option String :=
  (files.find? fun file => file.filename == filename).map Artifact.content

section References

variable (model : Model)

theorem sampleOf_firstColorPath? :
    SampleOf model.firstColorPath? (model.colors.leaves.map Prod.fst) := by
  rw [Model.firstColorPath?, ← List.head?_map]
  exact sampleOf_head? _

/-- The path of the first style is one of every tree of styles that renames as the path does. -/
theorem sampleOf_styleTree {α : Type} (rename : String → String) (value : StyleEntry → α) :
    SampleOf (model.styles.head?.map (StyleEntry.path rename))
      ((model.styleTree rename value).leaves.map Prod.fst) := by
  rw [← List.head?_map]
  exact (sampleOf_head? _).of_mem_iff (model.mem_paths_styleTree_iff rename value)

end References

namespace Emotion

/-- The examples of the tagged templates use what the run defines: the comment of the styles uses
the path of one of the styles behind it, and the provider uses a color of the theme. -/
structure ExamplesDefined (model : Model) (files : List Artifact) : Prop where
  style : ∃ path?, SampleOf path? ((styleTree model).leaves.map Prod.fst) ∧
    (path? = none ↔ contentIn? files "typography.ts" = none) ∧
    ∀ content ∈ contentIn? files "typography.ts", ∃ comment head tail,
      content = comment ++ head ++
        Text.joinLines ((styleTree model).render Theme.objectStyle "  " 1) ++ tail ∧
      Script.Uses " *   $\x7btypography" "\x7d" comment (path?.map Script.accessChain)
  color : ∃ path?, SampleOf path? (model.colors.leaves.map Prod.fst) ∧
    ∃ content, contentIn? files "ThemeProvider.tsx" = some content ∧
      Script.Uses Theme.colorOpening "\x7d;" content (path?.map Script.accessChain)

variable (model : Model)

theorem contentIn?_typography :
    contentIn? (artifacts model) "typography.ts" =
      model.styles.head?.map (typographyFile model) := by
  rw [artifacts]
  cases model.styles <;> rfl

theorem contentIn?_provider :
    contentIn? (artifacts model) "ThemeProvider.tsx" = some (providerFile model) := by
  rw [artifacts]
  cases model.styles <;> rfl

theorem examplesDefined : ExamplesDefined model (artifacts model) where
  style := by
    refine ⟨_, sampleOf_styleTree model Key.withoutHyphens fun entry => template entry.style,
      ?_, ?_⟩
    · rw [contentIn?_typography, Option.map_eq_none_iff, Option.map_eq_none_iff]
    · rw [contentIn?_typography]
      intro content written
      obtain ⟨first, here, rfl⟩ := Option.mem_map.mp written
      rw [Option.mem_def.mp here]
      exact ⟨_, _, _, rfl, uses_typographyComment (first.path Key.withoutHyphens)⟩
  color := ⟨_, sampleOf_firstColorPath? model, _, contentIn?_provider model,
    uses_providerText model.firstColorPath?⟩

end Emotion

namespace StyledComponents

/-- The mixins that the text of the mixins declares, if it is written. -/
def exportedMixins (files : List Artifact) : List String :=
  ((contentIn? files "mixins.ts").map declaredMixins).getD []

/-- The examples of the mixins use what the run defines: the comment of the mixins uses one of them,
the provider uses one if the mixins are written and a color of the theme, and the font of the page
is the one of a key of the theme. -/
structure ExamplesDefined (model : Model) (files : List Artifact) : Prop where
  usage : ∀ content ∈ contentIn? files "mixins.ts", ∃ own ∈ declaredMixins content,
    ∃ comment head, content = comment ++ head ++ Text.joinLines (model.styles.map mixin) ∧
      Script.Uses " * import \x7b " " \x7d from './mixins';" comment (some own) ∧
      Script.Uses " *   $\x7b" "\x7d" comment (some own)
  provider : ∃ mixin? path?, SampleOf mixin? (exportedMixins files) ∧
    (mixin? = none ↔ contentIn? files "mixins.ts" = none) ∧
    SampleOf path? (model.colors.leaves.map Prod.fst) ∧
    ∃ content, contentIn? files "ThemeProvider.tsx" = some content ∧
      declaredImports content = mixin?.toList ∧
      Script.Uses "//   $\x7b" "\x7d" content mixin? ∧
      Script.Uses Theme.colorOpening "\x7d;" content (path?.map Script.accessChain)
  font : ∃ key?, SampleOf key? (Theme.familyValues model).names ∧
    ∃ content, contentIn? files "GlobalStyle.tsx" = some content ∧
      Script.Uses fontOpening " || 'sans-serif'\x7d;" content
        (key?.map fun key => Script.accessChain [key])

section Examples

variable (model : Model)

/-- A mixin that is used has a name. -/
theorem sampleMixin?_eq : sampleMixin? model = model.styles.head?.map mixinOf := by
  unfold sampleMixin?
  cases model.styles with
  | nil => rfl
  | cons first rest =>
      have named : (mixinOf first).isEmpty = false := by
        obtain ⟨rest, spelled⟩ := (isIdentifier_mixinOf first).1
        rw [String.isEmpty_eq_false_iff]
        intro empty
        rw [empty] at spelled
        simp at spelled
      exact if_neg (by simp [named])

theorem mixinOf_mem_declaredMixins {entry : StyleEntry} (mem : entry ∈ model.styles)
    (first : StyleEntry) : mixinOf entry ∈ declaredMixins (mixinsFile model first) := by
  rw [declaredMixins_mixinsFile]
  exact List.mem_flatMap.mpr ⟨entry, mem, List.mem_cons_self⟩

theorem contentIn?_mixins :
    contentIn? (artifacts model) "mixins.ts" = model.styles.head?.map (mixinsFile model) := by
  rw [artifacts]
  cases model.styles <;> rfl

theorem sampleOf_exportedMixins :
    SampleOf (sampleMixin? model) (exportedMixins (artifacts model)) := by
  rw [sampleMixin?_eq, exportedMixins, contentIn?_mixins]
  cases styles : model.styles with
  | nil => rfl
  | cons first rest =>
      have mem : first ∈ model.styles := styles ▸ List.mem_cons_self
      simp only [List.head?_cons, Option.map_some, Option.getD_some, SampleOf]
      exact mixinOf_mem_declaredMixins model mem first

theorem contentIn?_provider :
    contentIn? (artifacts model) "ThemeProvider.tsx" = some (providerFile model) := by
  rw [artifacts]
  cases model.styles <;> rfl

theorem contentIn?_global :
    contentIn? (artifacts model) "GlobalStyle.tsx" = some (globalFile model) := by
  rw [artifacts]
  cases model.styles <;> rfl

theorem feed_not_mem_mixinOf (entry : StyleEntry) : '\n' ∉ (mixinOf entry).toList :=
  Script.feed_not_mem_identifier _

theorem examplesDefined : ExamplesDefined model (artifacts model) where
  usage := by
    rw [contentIn?_mixins]
    intro content written
    obtain ⟨first, here, rfl⟩ := Option.mem_map.mp written
    have mem : first ∈ model.styles := List.mem_of_head? here
    have comment := uses_mixinsComment (feed_not_mem_mixinOf first)
    exact ⟨mixinOf first, mixinOf_mem_declaredMixins model mem first, _, _, rfl, comment⟩
  provider := by
    have feed : ∀ mixin ∈ sampleMixin? model, '\n' ∉ mixin.toList := by
      rw [sampleMixin?_eq]
      intro mixin sampled
      obtain ⟨entry, _, rfl⟩ := Option.mem_map.mp sampled
      exact feed_not_mem_mixinOf entry
    obtain ⟨color, mixin⟩ := uses_providerText feed model.firstColorPath?
    refine ⟨sampleMixin? model, model.firstColorPath?, sampleOf_exportedMixins model, ?_,
      sampleOf_firstColorPath? model, _, contentIn?_provider model,
      declaredImports_providerText feed model.firstColorPath?, mixin, color⟩
    rw [contentIn?_mixins, sampleMixin?_eq, Option.map_eq_none_iff, Option.map_eq_none_iff]
  font := ⟨_, sampleOf_head? _, _, contentIn?_global model, uses_globalText _⟩

end Examples

end StyledComponents

namespace VanillaExtract

/-- What a text uses is what an example refers to, each on a line of its own. -/
structure Sample.UsedIn (sample : Sample) (content : String) : Prop where
  imports : Script.declared "import \x7b typography \x7d from './" "';" content =
    if sample.importsRecipes then ["typography.css"] else []
  style : Script.Uses "  typography" "," content (sample.style?.map Script.accessChain)
  background : Script.Uses "  backgroundColor: vars.color[" "]," content
    ((sample.colors?.map Prod.fst).map Json.asciiLiteral)
  titleColor : Script.Uses "    color: vars.color[" "]," content
    (sample.style?.bind fun _ => (sample.colors?.map Prod.snd).map Json.asciiLiteral)
  boxColors : Script.Uses "    color: \x7b mobile: " " \x7d," content
    (sample.colors?.map boxColors)
  size : Script.Uses "    fontSize: " "," content (sample.size?.map Json.asciiLiteral)

theorem usedIn_exampleText (sample : Sample) : sample.UsedIn (exampleText sample) where
  imports := by
    rw [(uses_exampleText_import sample).declared_eq]
    · split <;> rfl
    · intro name found
      split at found <;> cases found
      decide
  style := uses_exampleText_style sample
  background := uses_exampleText_background sample
  titleColor := uses_exampleText_titleColor sample
  boxColors := uses_exampleText_boxColors sample
  size := uses_exampleText_size sample

/-- What the example of the recipes refers to is defined by the run: it imports the recipes exactly
if they are written and then accesses one of their index, it reads colors of the theme by their
keys, and the size has a label of the scale. -/
structure Sample.Defined (sample : Sample) (model : Model) (files : List Artifact) : Prop where
  imports : sample.importsRecipes = (contentIn? files "typography.css.ts").isSome
  accesses : sample.style?.isSome = sample.importsRecipes
  index : ∀ content ∈ contentIn? files "typography.css.ts", ∃ head tail,
    content = head ++ Text.joinLines ((recipeTree model).render Theme.objectStyle "  " 1) ++ tail
  style : SampleOf sample.style? ((recipeTree model).leaves.map Prod.fst)
  first : SampleOf (sample.colors?.map Prod.fst) (flatColors model).names
  last : SampleOf (sample.colors?.map Prod.snd) (flatColors model).names
  size : SampleOf sample.size? (sizeScale model.sizes).names

theorem contentIn?_recipes (model : Model) :
    contentIn? (artifacts model) "typography.css.ts" =
      if model.hasTypography then some (recipesFile model) else none := by
  rw [artifacts]
  cases model.hasTypography <;> rfl

theorem sample_defined (model : Model) : (sample model).Defined model (artifacts model) where
  imports := by
    rw [contentIn?_recipes, sample]
    cases model.hasTypography <;> rfl
  accesses := by
    rw [sample, Model.hasTypography]
    cases model.styles <;> rfl
  index := by
    rw [contentIn?_recipes]
    intro content written
    split at written <;> cases written
    exact ⟨_, _, rfl⟩
  style := sampleOf_styleTree model Key.withoutHyphens recipeOf
  first := by
    have ends : (sample model).colors?.map Prod.fst = (flatColors model).names.head? := by
      unfold sample
      cases (flatColors model).names <;> rfl
    rw [ends]
    exact sampleOf_head? _
  last := by
    have ends : (sample model).colors?.map Prod.snd = (flatColors model).names.getLast? := by
      unfold sample
      cases (flatColors model).names <;> rfl
    rw [ends]
    exact sampleOf_getLast? _
  size := sampleOf_head? _

theorem contentIn?_example (model : Model) :
    contentIn? (artifacts model) "example.ts" = some (exampleText (sample model)) := by
  rw [artifacts]
  cases model.hasTypography <;> rfl

end VanillaExtract

namespace PandaCss

/-- What a text uses is what an example refers to, each on a line of its own. A name with a feed in
it is written as it is and may begin a line like any other. -/
structure Sample.UsedIn (sample : Sample) (content : String) : Prop where
  shown : ∃ lines, content = Text.joinLines lines ∧
    (∀ path ∈ sample.color?, "        color: '" ++ ".".intercalate path ++ "'," ∈ lines) ∧
    ∀ path ∈ sample.style?, "          textStyle: '" ++ ".".intercalate path ++ "'," ∈ lines
  color : (∀ path ∈ sample.style?, '\n' ∉ (".".intercalate path).toList) →
    Script.Uses "        color: '" "'," content (sample.color?.map (".".intercalate ·))
  style : (∀ path ∈ sample.color?, '\n' ∉ (".".intercalate path).toList) →
    Script.Uses "          textStyle: '" "'," content (sample.style?.map (".".intercalate ·))

theorem usedIn_exampleText (sample : Sample) : sample.UsedIn (exampleText sample) where
  shown := exampleText_shows sample
  color := uses_exampleText_color sample
  style := uses_exampleText_style sample

/-- What the example of the configuration refers to is defined by it: the color is one of the
colors, and the text style is one of the text styles. -/
structure Sample.Defined (sample : Sample) (model : Model) : Prop where
  color : SampleOf sample.color? (model.colors.leaves.map Prod.fst)
  style : SampleOf sample.style? ((textStyles model).leaves.map Prod.fst)

theorem sample_defined (model : Model) : (sample model).Defined model where
  color := sampleOf_firstColorPath? model
  style := sampleOf_styleTree model (fun name => name) fun entry => textStyle entry.style

end PandaCss

/-- In every format with examples, the examples of a model use only what the same run defines. The
files of these formats are written for every model within the limit of digits. -/
theorem examples_defined (model : Model) :
    (model.Limited → ∀ format : Format, format.drawsGradients = false →
      Succeeds (generate format model)) ∧
    (∀ files, generate .emotion model = .ok files → Emotion.ExamplesDefined model files) ∧
    (∀ files, generate .styledComponents model = .ok files →
      StyledComponents.ExamplesDefined model files) ∧
    (∀ files, generate .vanillaExtract model = .ok files → ∃ content sample,
      contentIn? files "example.ts" = some content ∧
      VanillaExtract.Sample.UsedIn sample content ∧ sample.Defined model files) ∧
    ∀ files, generate .pandaCss model = .ok files → ∃ content sample,
      contentIn? files "example.tsx" = some content ∧
      PandaCss.Sample.UsedIn sample content ∧ sample.Defined model := by
  refine ⟨?written, ?emotion, ?styledComponents, ?vanillaExtract, ?pandaCss⟩
  case written =>
    intro _ format undrawn
    exact (succeeds_generate_iff format model).mpr fun drawn => by
      rw [undrawn] at drawn
      cases drawn
  case emotion =>
    rintro _ ⟨⟩
    exact Emotion.examplesDefined model
  case styledComponents =>
    rintro _ ⟨⟩
    exact StyledComponents.examplesDefined model
  case vanillaExtract =>
    rintro _ ⟨⟩
    exact ⟨_, _, VanillaExtract.contentIn?_example model, VanillaExtract.usedIn_exampleText _,
      VanillaExtract.sample_defined model⟩
  case pandaCss =>
    rintro _ ⟨⟩
    exact ⟨_, _, rfl, PandaCss.usedIn_exampleText _, PandaCss.sample_defined model⟩

/-- A model of one color and one text style. -/
def skyModel : Model where
  colors := .node "sky" (.leaf "100" (.string "#0af") .nil) .nil
  typography := [("mobile", [("kr", [("title-1",
    ⟨"Arial", .integer 16, .integer 700, .integer 24, .integer 0⟩)])])]
  gradients := none

theorem limited_skyModel : skyModel.Limited := by
  constructor
  · simp [skyModel, Tree.toJson, Tree.toMembers, Json.NumberLimited]
  · decide

/-- The example of the recipes uses the one style and the one color. -/
theorem examples_defined_skyModel :
    ∃ files content, generate .vanillaExtract skyModel = .ok files ∧
      contentIn? files "example.ts" = some content ∧
      Script.declared "import \x7b typography \x7d from './" "';" content = ["typography.css"] ∧
      Script.Uses "  typography" "," content (some ".mobile.kr.title1") ∧
      Script.Uses "  backgroundColor: vars.color[" "]," content (some "\"sky.100\"") := by
  obtain ⟨written, -, -, recipes, -⟩ := examples_defined skyModel
  obtain ⟨files, made⟩ := written limited_skyModel .vanillaExtract rfl
  obtain ⟨content, sample, found, used, defined⟩ := recipes files made
  have paths : ((VanillaExtract.recipeTree skyModel).leaves.map Prod.fst) =
      [["mobile", "kr", "title1"]] := by decide
  have keys : (VanillaExtract.flatColors skyModel).names = ["sky.100"] := by decide
  have style := sampleOf_singleton (paths ▸ defined.style)
  have color := sampleOf_singleton (keys ▸ defined.first)
  have imports : sample.importsRecipes = true := by
    rw [← defined.accesses, style]
    rfl
  refine ⟨files, content, made, found, ?_, ?_, ?_⟩
  · rw [used.imports, if_pos imports]
  · have access := used.style
    rw [style] at access
    exact access
  · have background := used.background
    rw [color] at background
    exact background

end DesignTokens
