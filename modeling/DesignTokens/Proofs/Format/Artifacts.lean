import DesignTokens.Format.Guarded
import DesignTokens.Proofs.Entries.Collect
import DesignTokens.Proofs.Model.KeptStyles
import DesignTokens.Proofs.Model.LimitedNumbers
import DesignTokens.Proofs.Script.Declarations

/-!
# The files of a format

Each format is written as fixed files, and the one that is made of the text styles is left out if
there are none. Nothing is taken from an empty list on the way. Where all numbers of a model keep to
the limit of digits, writing fails in one case: a stop of a gradient that is drawn stands so far out
that its percentage has too many digits.
-/

namespace DesignTokens

section Succeeding

variable {ε α β : Type}

/-- A result that is not a fault. -/
def Succeeds (result : Except ε α) : Prop :=
  ∃ value, result = .ok value

theorem succeeds_ok (value : α) : Succeeds (.ok value : Except ε α) := ⟨value, rfl⟩

theorem not_succeeds_error (fault : ε) : ¬Succeeds (.error fault : Except ε α) :=
  fun ⟨_, h⟩ => nomatch h

/-- What always goes on succeeds as its first step does. -/
theorem succeeds_bind_iff {result : Except ε α} {next : α → Except ε β}
    (goes : ∀ value, Succeeds (next value)) : Succeeds (result >>= next) ↔ Succeeds result := by
  cases result with
  | error fault => exact iff_of_false (not_succeeds_error fault) (not_succeeds_error fault)
  | ok value => exact iff_of_true (goes value) (succeeds_ok value)

theorem succeeds_mapM_iff {step : α → Except ε β} (items : List α) :
    Succeeds (items.mapM step) ↔ ∀ item ∈ items, Succeeds (step item) := by
  induction items with
  | nil => exact iff_of_true (succeeds_ok []) (List.forall_mem_nil _)
  | cons item rest ih =>
      rw [List.mapM_cons, List.forall_mem_cons]
      cases first : step item with
      | error fault =>
          exact iff_of_false (not_succeeds_error fault) fun both => not_succeeds_error fault both.1
      | ok value =>
          have tail : Succeeds (rest.mapM step >>= fun values => pure (value :: values)) ↔
              Succeeds (rest.mapM step) := succeeds_bind_iff fun values => succeeds_ok _
          rw [and_iff_right (succeeds_ok value), ← ih]
          exact tail

end Succeeding

namespace Number

/-- A number is written with the limit of digits exactly if it keeps to the limit. -/
theorem succeeds_limitedText_iff (x : Number) : Succeeds x.limitedText ↔ x.Limited := by
  have stored : Succeeds x.limitedText ↔ x.normalize.Limited := by
    unfold limitedText
    cases form : x.normalize with
    | integer n =>
        rw [Limited]
        simp only
        split
        case isTrue few => exact iff_of_true (succeeds_ok _) few
        case isFalse many => exact iff_of_false (not_succeeds_error _) many
    | real y => exact iff_of_true (succeeds_ok _) trivial
  rw [stored]
  cases x with
  | integer n => rfl
  | real y => exact iff_of_true (Limited.normalize trivial) trivial

end Number

namespace Css

theorem succeeds_stop_iff (s : GradientStop) :
    Succeeds (stop s) ↔ s.position.percentage.Limited := by
  rw [← Number.succeeds_limitedText_iff]
  exact succeeds_bind_iff fun percentage => succeeds_ok _

/-- A gradient is drawn exactly if the percentages of its stops keep to the limit of digits. -/
theorem succeeds_gradient_iff (g : Gradient) :
    Succeeds (gradient g) ↔ ∀ s ∈ g.stops, s.position.percentage.Limited := by
  simp only [← succeeds_stop_iff, ← succeeds_mapM_iff]
  apply succeeds_bind_iff
  intro stops
  cases shapeOf g.kind with
  | radial => exact succeeds_ok _
  | conic => exact succeeds_ok _
  | linear => exact succeeds_ok _

end Css

/-- The percentages of all stops keep to the limit of digits. -/
def Model.StopsLimited (model : Model) : Prop :=
  ∀ entry ∈ model.gradientEntries, ∀ stop ∈ entry.gradient.stops, stop.position.percentage.Limited

/-- Whether a format draws gradients. -/
def Format.drawsGradients : Format → Bool
  | .cssVariables => true
  | .scss => true
  | _ => false

section Writing

variable {model : Model}

/-- All gradients of a model are drawn, each on a line of its own, exactly if all percentages keep
to the limit. -/
theorem succeeds_mapM_gradient_iff (line : GradientEntry → String → String) :
    Succeeds (model.gradientEntries.mapM fun entry => do
      let drawn ← Css.gradient entry.gradient
      .ok (line entry drawn)) ↔ model.StopsLimited := by
  rw [succeeds_mapM_iff]
  apply forall₂_congr
  intro entry _
  rw [← Css.succeeds_gradient_iff]
  exact succeeds_bind_iff fun drawn => succeeds_ok _

theorem CssVariables.succeeds_artifacts_iff :
    Succeeds (artifacts model) ↔ model.StopsLimited := by
  have drawn : Succeeds (gradientVariables model) ↔ model.StopsLimited :=
    succeeds_mapM_gradient_iff _
  have sheet : Succeeds (stylesheet model) ↔ Succeeds (gradientVariables model) :=
    succeeds_bind_iff fun gradients => succeeds_ok _
  rw [← drawn, ← sheet]
  exact succeeds_bind_iff fun content => succeeds_ok _

theorem Scss.succeeds_artifacts_iff :
    Succeeds (artifacts model) ↔ model.StopsLimited := by
  have drawn : Succeeds (gradientVariables model) ↔ model.StopsLimited :=
    succeeds_mapM_gradient_iff _
  have colors : Succeeds (colorsPartial model) ↔ Succeeds (gradientVariables model) :=
    succeeds_bind_iff fun gradients => succeeds_ok _
  have files : Succeeds (partials model) ↔ Succeeds (colorsPartial model) :=
    succeeds_bind_iff fun content => succeeds_ok _
  rw [← drawn, ← colors, ← files]
  exact succeeds_bind_iff fun listed => succeeds_ok _

/-- Writing succeeds, unless a gradient is drawn with a percentage of too many digits. -/
theorem succeeds_generate_iff (format : Format) (model : Model) :
    Succeeds (generate format model) ↔ (format.drawsGradients = true → model.StopsLimited) := by
  cases format with
  | cssVariables => simp only [generate, CssVariables.succeeds_artifacts_iff,
      Format.drawsGradients, true_imp_iff]
  | scss => simp only [generate, Scss.succeeds_artifacts_iff, Format.drawsGradients, true_imp_iff]
  | _ => exact iff_of_true (succeeds_ok _) fun drawn => nomatch drawn

end Writing

section Taking

variable (model : Model)

theorem Theme.takeDefaultFont_eq : takeDefaultFont model = .ok (defaultFont model) := by
  unfold takeDefaultFont defaultFont
  cases familyValues model <;> rfl

theorem Emotion.emit_eq : emit model = .ok (artifacts model) := by
  unfold emit artifacts Model.hasTypography
  cases model.styles <;> rfl

theorem StyledComponents.emit_eq : emit model = .ok (artifacts model) := by
  unfold emit
  rw [Theme.takeDefaultFont_eq]
  rfl

theorem VanillaExtract.takeSample_eq : takeSample model = .ok (sample model) := by
  unfold takeSample sample Model.hasTypography
  cases (flatColors model).names <;> cases model.styles <;>
    cases (sizeScale model.sizes).names <;> rfl

theorem VanillaExtract.emit_eq : emit model = .ok (artifacts model) := by
  unfold emit
  rw [takeSample_eq]
  rfl

theorem PandaCss.takeSample_eq : takeSample model = .ok (sample model) := by
  unfold takeSample sample Model.hasTypography Model.firstColorPath?
  cases model.colors.leaves <;> cases model.styles <;> rfl

theorem PandaCss.emit_eq : emit model = .ok (artifacts model) := by
  unfold emit
  rw [takeSample_eq]
  rfl

/-- Nothing is taken where there is none. -/
theorem emit_eq_mapError (format : Format) :
    format.emit model = (generate format model).mapError .digits := by
  cases format with
  | tailwind => rfl
  | cssVariables => rfl
  | scss => rfl
  | emotion => exact Emotion.emit_eq model
  | styledComponents => exact StyledComponents.emit_eq model
  | vanillaExtract => exact VanillaExtract.emit_eq model
  | pandaCss => exact PandaCss.emit_eq model

end Taking

namespace Format

/-- The files of a format up to the one that is made of the text styles. -/
def leadingFiles : Format → List String
  | .tailwind => ["colors.ts"]
  | .cssVariables => ["tokens.css"]
  | .scss => ["_colors.scss"]
  | .emotion => ["theme.ts", "emotion.d.ts"]
  | .styledComponents => ["theme.ts", "styled.d.ts"]
  | .vanillaExtract => ["tokens.css.ts"]
  | .pandaCss => ["panda.config.ts", "example.tsx", "postcss.config.cjs"]

/-- The file of a format that is made of the text styles. -/
def typographyFile? : Format → Option String
  | .tailwind => some "typography.ts"
  | .scss => some "_typography.scss"
  | .emotion => some "typography.ts"
  | .styledComponents => some "mixins.ts"
  | .vanillaExtract => some "typography.css.ts"
  | _ => none

/-- The files of a format behind the one that is made of the text styles. -/
def trailingFiles : Format → List String
  | .tailwind => ["tailwind.config.ts"]
  | .cssVariables => []
  | .scss => ["_index.scss"]
  | .emotion => ["ThemeProvider.tsx"]
  | .styledComponents => ["GlobalStyle.tsx", "ThemeProvider.tsx"]
  | .vanillaExtract => ["sprinkles.css.ts", "example.ts"]
  | .pandaCss => []

/-- The files of a model in a format. -/
def filenames (format : Format) (model : Model) : List String :=
  format.leadingFiles ++ (if model.styles = [] then [] else format.typographyFile?.toList) ++
    format.trailingFiles

end Format

section Files

variable {model : Model} {files : List Artifact}

theorem Scss.partials_filenames {listed : List Artifact} (h : partials model = .ok listed) :
    listed.map Artifact.filename =
      ["_colors.scss"] ++ if model.styles = [] then [] else ["_typography.scss"] := by
  obtain ⟨colors, -, made⟩ := exists_of_bind_eq_ok h
  rw [← Except.ok.inj made, Model.hasTypography]
  cases model.styles <;> rfl

/-- A format is written as its files, in their order. -/
theorem filenames_of_generate {format : Format} (h : generate format model = .ok files) :
    files.map Artifact.filename = format.filenames model := by
  unfold Format.filenames
  cases format with
  | tailwind =>
      rw [← Except.ok.inj h, Tailwind.artifacts, Model.hasTypography]
      cases model.styles <;> rfl
  | cssVariables =>
      obtain ⟨content, -, made⟩ := exists_of_bind_eq_ok h
      rw [← Except.ok.inj made]
      cases model.styles <;> rfl
  | scss =>
      obtain ⟨listed, given, made⟩ := exists_of_bind_eq_ok h
      rw [← Except.ok.inj made, List.map_append, Scss.partials_filenames given]
      cases model.styles <;> rfl
  | emotion =>
      rw [← Except.ok.inj h, Emotion.artifacts]
      cases model.styles <;> rfl
  | styledComponents =>
      rw [← Except.ok.inj h, StyledComponents.artifacts]
      cases model.styles <;> rfl
  | vanillaExtract =>
      rw [← Except.ok.inj h, VanillaExtract.artifacts, Model.hasTypography]
      cases model.styles <;> rfl
  | pandaCss =>
      rw [← Except.ok.inj h, PandaCss.artifacts]
      cases model.styles <;> rfl

end Files

namespace Scss

/-- The partials that the lines of an index forward, by their module names. -/
def forwarded (content : String) : List String :=
  Script.declared "@forward '" "';" content

/-- The file name of a partial. -/
def partialName (stem : String) : String :=
  "_" ++ stem ++ ".scss"

theorem moduleName_partialName (stem : String) : moduleName (partialName stem) = stem := by
  have name : (partialName stem).toList.drop 1 = stem.toList ++ ".scss".toList := by
    simp [partialName]
  have ending : ".scss".toList.isSuffixOf (stem.toList ++ ".scss".toList) = true :=
    List.isSuffixOf_iff_suffix.mpr (List.suffix_append _ _)
  simp only [moduleName, name, ending, if_true, List.length_append, Nat.add_sub_cancel,
    List.take_left', String.ofList_toList]

/-- An index forwards its partials in their order. -/
theorem forwarded_index {listed : List Artifact} {stems : List String}
    (named : listed.map Artifact.filename = stems.map partialName)
    (solid : ∀ stem ∈ stems, '\n' ∉ stem.toList) : forwarded (index listed) = stems := by
  have starts : "@forward '".toList.head? = some '@' := rfl
  have heading : Script.declared "@forward '" "';" (Banner.lineComment "Design Tokens") = [] := by
    decide
  have ending : Script.declared "@forward '" "';" "" = [] := by
    decide
  have lines : listed.map (fun file => "@forward '" ++ moduleName file.filename ++ "';") =
      stems.map fun stem => "@forward '" ++ stem ++ "';" := by
    have modules : listed.map (fun file => moduleName file.filename) = stems := by
      have pairs := congrArg (List.map moduleName) named
      simpa [List.map_map, Function.comp_def, moduleName_partialName] using pairs
    rw [← modules, List.map_map]
    rfl
  have split : index listed = Banner.lineComment "Design Tokens" ++ "\n" ++
      Text.joinLines (stems.map fun stem => "@forward '" ++ stem ++ "';") ++ "\n" ++ "" := by
    rw [index, lines, String.append_empty]
  rw [forwarded, split, Script.declared_append_feed, Script.declared_append_feed, heading, ending,
    Script.declared_joinLines_map starts, List.nil_append, List.append_nil]
  calc stems.flatMap (fun stem => Script.declared "@forward '" "';" ("@forward '" ++ stem ++ "';"))
      = stems.flatMap fun stem => [stem] := by
        apply List.flatMap_congr
        intro stem mem
        apply Script.declared_declaration
        simpa using solid stem mem
    _ = stems := List.flatMap_singleton' stems

/-- The last file forwards the files in front of it. -/
theorem exists_index_of_artifacts {model : Model} {files : List Artifact}
    (h : artifacts model = .ok files) :
    ∃ listed index, files = listed ++ [index] ∧
      (forwarded index.content).map partialName = listed.map Artifact.filename := by
  obtain ⟨listed, given, made⟩ := exists_of_bind_eq_ok h
  have named : listed.map Artifact.filename =
      ("colors" :: if model.styles = [] then [] else ["typography"]).map partialName := by
    rw [partials_filenames given]
    split <;> rfl
  refine ⟨listed, _, (Except.ok.inj made).symm, ?_⟩
  rw [forwarded_index named, named]
  split <;> decide

end Scss

/-- What is documented of the files of a model in a format, whose numbers keep to the limit of
digits. Writing succeeds, unless a gradient is drawn with a percentage of too many digits; it gives
the files of the format and takes nothing where there is none; and an index forwards exactly the
files in front of it. -/
structure Documented (format : Format) (model : Model) : Prop where
  succeeds : Succeeds (generate format model) ↔ (format.drawsGradients = true → model.StopsLimited)
  filenames : ∀ files, generate format model = .ok files →
    files.map Artifact.filename = format.filenames model
  taken : format.emit model = (generate format model).mapError .digits
  index : format = .scss → ∀ files, generate format model = .ok files →
    ∃ listed index, files = listed ++ [index] ∧
      (Scss.forwarded index.content).map Scss.partialName = listed.map Artifact.filename

theorem documented (format : Format) (model : Model) : Documented format model where
  succeeds := succeeds_generate_iff format model
  filenames _ h := filenames_of_generate h
  taken := emit_eq_mapError model format
  index scss files h := by
    subst scss
    exact Scss.exists_index_of_artifacts h

/-- A validated model whose numbers keep to the limit of digits is written as documented in every
format, and every model that comes from a text is such a model. No validated model has an empty
device or an empty locale, and whatever it is built from, no style is lost on the way. -/
theorem files_documented (model : Model) :
    (∀ colors typography gradients,
      Model.build colors typography gradients = .ok model → model.Occupied ∧
        List.Forall₂ Model.StylePart.Gives (Model.styleParts typography) model.styles) ∧
    (∀ fields : Entries Json,
      Model.check (.object fields) = .ok model → model.Occupied ∧
        List.Forall₂ Model.StylePart.Gives
          (Model.styleParts (.plain ((fields.get? "typography").getD (.object []))))
          model.styles) ∧
    (model.Validated → model.Occupied ∧
      (model.Limited → (∀ x ∈ model.numbers, x.limitedText = .ok x.cssText) ∧
        ∀ format, Documented format model)) ∧
    (model.Loaded → model.Validated ∧ model.Limited) := by
  refine ⟨?parts, ?records, ?written, fun loaded => ⟨loaded.validated, loaded.limited⟩⟩
  case parts =>
    intro colors typography gradients built
    exact ⟨Model.occupied_of_build built, Model.forall₂_styleParts built⟩
  case records =>
    intro fields given
    have built := (Model.check_eq_build fields).symm.trans given
    exact ⟨Model.occupied_of_build built, Model.forall₂_styleParts built⟩
  case written =>
    intro valid
    refine ⟨valid.occupied, fun limited => ⟨fun x mem => ?_, fun format => documented format model⟩⟩
    exact Number.limitedText_eq_ok (limited.numbers x mem)

/-- A section of one style, beside a device and a locale without styles. -/
def sparseFields : Entries Json := [
  ("typography", .object [
    ("desktop", .object [("kr", .object [])]),
    ("mobile", .object [("en", .object []), ("kr", .object [("title", .object [
      ("fontFamily", .string "Arial"), ("fontSize", .number (.integer 16)),
      ("fontWeight", .number (.integer 700)), ("lineHeight", .number (.integer 24))])])])])]

/-- The model of the section. -/
def sparseModel : Model :=
  ⟨.nil, [("mobile", [("kr", [("title",
    ⟨"Arial", .integer 16, .integer 700, .integer 24, .integer 0⟩)])])], none⟩

theorem isDocument_sparseFields : (Json.object sparseFields).IsDocument := by
  have limited : ∀ n ∈ [16, 700, 24],
      (Number.digitsOf n).length ≤ Number.digitLimit := by decide
  simpa [sparseFields, Json.IsDocument, Json.NamesDistinct, Json.NumberLimited, Number.Limited,
    and_assoc] using limited

theorem files_documented_sparseModel :
    Model.check (.object sparseFields) = .ok sparseModel ∧
    (Model.styleParts (.plain ((Entries.get? "typography" sparseFields).getD .null))).length = 1 ∧
    ∃ files, generate .scss sparseModel = .ok files ∧
      files.map Artifact.filename = ["_colors.scss", "_typography.scss", "_index.scss"] := by
  have given : Model.check (.object sparseFields) = .ok sparseModel := rfl
  have held : Json.read (Json.write ⟨[], 2⟩ 0 (.object sparseFields)) =
      .ok (.object sparseFields) :=
    Json.read_write (by simp) isDocument_sparseFields 0
  obtain ⟨-, records, written, read⟩ := files_documented sparseModel
  obtain ⟨valid, limited⟩ := read (.ofRecord held given)
  have kept := (records sparseFields given).2
  have documented := ((written valid).2 limited).2 .scss
  obtain ⟨files, made⟩ := documented.succeeds.mpr fun _ entry mem => absurd mem List.not_mem_nil
  exact ⟨given, kept.length_eq, files, made, documented.filenames files made⟩

section FarStop

/-- A position of as many digits as are read. -/
def farPosition : Nat :=
  10 ^ (Number.digitLimit - 1)

/-- An export with a gradient whose stop stands there. -/
def farSections : Entries Json :=
  [("gradient", .object [("far", Export.leafNode "custom-gradient" (.object [
    ("gradientType", .string "linear"), ("rotation", .number (.integer 90)),
    ("stops", .array [.object [("position", .number (.integer farPosition)),
      ("color", .string "#fff")]])]))])]

theorem farPosition_mul_ten : farPosition * 10 = 10 ^ Number.digitLimit := by
  have pos : 1 ≤ Number.digitLimit := by decide
  unfold farPosition
  generalize Number.digitLimit = limit at pos
  obtain ⟨places, rfl⟩ := Nat.exists_eq_add_of_le' pos
  exact (Nat.pow_succ ..).symm

/-- A hundred times such a position has more digits than are written. -/
theorem not_limited_hundredfold {position : Nat}
    (most : position * 10 = 10 ^ Number.digitLimit) :
    ¬(Number.integer (position * 100)).Limited := by
  have size : ((position : Int) * 100).natAbs = position * 100 := by omega
  have pos : 0 < 10 ^ Number.digitLimit := Nat.pow_pos (by decide)
  rw [Number.Limited, size, Number.length_digitsOf_le_iff (by decide)]
  omega

theorem farPosition_lt : farPosition < 10 ^ Number.digitLimit := by
  have pos : 0 < farPosition := Nat.pow_pos (by decide)
  rw [← farPosition_mul_ten]
  omega

theorem isDocument_farSections : (Json.object farSections).IsDocument := by
  have far : (Number.integer farPosition).Limited := Number.limited_integer_of_lt farPosition_lt
  have turned : (Number.digitsOf 90).length ≤ Number.digitLimit := by decide
  unfold farSections
  -- only the number of its digits counts, and the position itself is never to be computed
  generalize farPosition = position at far ⊢
  simpa [Export.leafNode, Json.IsDocument, Json.NamesDistinct, Json.NumberLimited]
    using ⟨turned, far⟩

/-- The stop is read from a text, and its percentage has too many digits: the style sheets are not
written, though the other formats are. -/
theorem files_farSections :
    Json.read (Json.write ⟨[], 2⟩ 0 (.object farSections)) = .ok (.object farSections) ∧
    (Export.model farSections).Validated ∧
    ¬Succeeds (generate .cssVariables (Export.model farSections)) ∧
    ¬Succeeds (generate .scss (Export.model farSections)) ∧
    Succeeds (generate .emotion (Export.model farSections)) := by
  have entries : (Export.model farSections).gradientEntries = [⟨"default", "far",
      ⟨"linear", .integer 90, [⟨.integer farPosition, "#fff"⟩]⟩⟩] := by
    decide +kernel
  have many : ¬(Export.model farSections).StopsLimited := by
    intro limited
    rw [Model.StopsLimited, entries, List.forall_mem_singleton] at limited
    exact not_limited_hundredfold farPosition_mul_ten (limited _ (List.mem_singleton_self _))
  refine ⟨Json.read_write (by simp) isDocument_farSections 0, Model.validated_model farSections,
    ?_, ?_, succeeds_ok _⟩
  · exact fun written => many ((succeeds_generate_iff .cssVariables _).mp written rfl)
  · exact fun written => many ((succeeds_generate_iff .scss _).mp written rfl)

end FarStop

end DesignTokens
