import DesignTokens.Export.Read
import DesignTokens.Format.Generate
import DesignTokens.Proofs.Export.Nodes
import DesignTokens.Proofs.Json.Documents
import DesignTokens.Proofs.Script.Properties
import DesignTokens.Proofs.Text.BlockComments

/-!
# Comments of generated files

Names from an export are written into two kinds of comments: the usage lines of a banner, and the
comments in front of the classes of a device. Each of these comments ends where it is meant to
end exactly if no device has an end mark of comments in its name, and the first text style has
none in its locale and in its name without hyphens.
-/

namespace DesignTokens

namespace Text

theorem ofNat_ne_of_toNat_lt {c : Char} {n : Nat} (nonzero : c.toNat ≠ 0) (above : c.toNat < n) :
    Char.ofNat n ≠ c := by
  rintro rfl
  by_cases valid : n.isValidChar
  case pos =>
      rw [Char.ofNat, dif_pos valid] at above
      exact absurd above (Nat.lt_irrefl n)
  case neg =>
      rw [Char.ofNat, dif_neg valid] at nonzero
      exact absurd rfl nonzero

/-- A single character other than a star and a slash makes no part of a mark. -/
theorem markless_singleton {d : Char} (star : d ≠ '*') (slash : d ≠ '/') :
    [d] ≠ [] ∧ '*' ∉ [d] ∧ '/' ∉ [d] := by
  rw [List.mem_singleton, List.mem_singleton]
  exact ⟨List.cons_ne_nil _ _, Ne.symm star, Ne.symm slash⟩

/-- The upper-case form of a name has the marks of the name. -/
theorem keepsMarks_upperChar : KeepsMarks upperChar := by
  have expansions : ∀ entry ∈ upperExpansions, entry.2.map Char.ofNat ≠ [] ∧
      '*' ∉ entry.2.map Char.ofNat ∧ '/' ∉ entry.2.map Char.ofNat := by
    decide +kernel
  have runs : ∀ run ∈ upperRuns, 47 < run.first + run.shift := by
    decide +kernel
  refine ⟨by decide +kernel, by decide +kernel, fun c star slash => ?_⟩
  unfold upperChar mapCase
  split
  case h_1 entry found => exact expansions entry (List.mem_of_find?_eq_some found)
  case h_2 =>
      split
      case h_1 run found =>
          have covered := List.find?_some found
          have high := runs run (List.mem_of_find?_eq_some found)
          simp only [CaseRun.covers, Bool.and_eq_true, decide_eq_true_eq] at covered
          have above : 47 < (c.toNat + run.shift).toNat := by omega
          have star : ('*').toNat < (c.toNat + run.shift).toNat := Nat.lt_trans (by decide) above
          have slash : ('/').toNat < (c.toNat + run.shift).toNat := above
          apply markless_singleton
          · exact ofNat_ne_of_toNat_lt (by decide) star
          · exact ofNat_ne_of_toNat_lt (by decide) slash
      case h_2 => exact markless_singleton star slash

end Text

namespace Json

/-- A string literal has the marks of the text that it stands for. -/
theorem keepsMarks_literalChar (ascii : Bool) : Text.KeepsMarks (literalChar ascii) := by
  refine ⟨by cases ascii <;> decide, by cases ascii <;> decide, fun c star slash => ?_⟩
  rcases literalChar_eq_or_escape ascii c with ⟨plain, -⟩ | ⟨nonempty, escape⟩
  · rw [plain]
    exact Text.markless_singleton star slash
  · exact ⟨nonempty, fun mem => absurd (escape mem) (by decide),
      fun mem => absurd (escape mem) (by decide)⟩

end Json

namespace Script

/-- An access has the marks of its key. -/
theorem closes_propertyAccess_iff (key : String) :
    Text.Closes (propertyAccess key).toList ↔ Text.Closes key.toList := by
  rw [toList_propertyAccess]
  split
  · exact Text.closes_cons_of_ne (by decide)
  · have parts : '[' :: Json.stringLiteral true key ++ [']'] =
        ['[', '"'] ++ key.toList.flatMap (Json.literalChar true) ++ ['"', ']'] := by
      simp [Json.stringLiteral]
    rw [parts, Text.closes_between_iff (by decide) (by decide) (by decide)]
    exact (Json.keepsMarks_literalChar true).closes_flatMap_iff key.toList

/-- A chain of accesses has the marks of its keys. -/
theorem closes_accessChain_iff (keys : List String) :
    Text.Closes (accessChain keys).toList ↔ ∃ key ∈ keys, Text.Closes key.toList := by
  induction keys with
  | nil => simp [accessChain]
  | cons key rest ih =>
      have bound : (accessChain rest).toList.head? ≠ some '/' := fun here => by
        have outside := startsOutside_accessChain (p := (· == '/')) (by decide) (by decide) rest
        exact absurd (outside '/' here) (by decide)
      rw [toList_accessChain_cons, Text.closes_append_iff (Or.inr bound),
        closes_propertyAccess_iff, ih]
      exact (List.exists_mem_cons_iff (fun key : String => Text.Closes key.toList) _ _).symm

end Script

namespace Banner

/-- A usage line has the marks of its text. -/
theorem closes_usageLine_iff (line : String) :
    Text.Closes (Text.withoutTrailingBlank (" * " ++ line)).toList ↔
      Text.Closes line.toList := by
  have quiet : ¬Text.Closes [' ', '*', ' '] := by decide
  have spelled : (" * " ++ line).toList = [' ', '*', ' '] ++ line.toList := by simp
  rw [Text.withoutTrailingBlank, String.toList_ofList, Text.closes_dropEnd_iff (by decide),
    spelled, Text.closes_append_iff (Or.inl (by decide)), or_iff_right quiet]

/-- The lines of a banner between its first and its last one. -/
def innerLines (title : String) (editable : Bool) (usage : List String) : List String :=
  [" * " ++ title, " *",
    if editable then " * Auto-generated file."
    else " * Auto-generated file. Do not edit directly!"] ++
  if usage.isEmpty then []
  else [" *", " * Usage:"] ++ usage.map fun line => Text.withoutTrailingBlank (" * " ++ line)

theorem exists_closes_innerLines_iff (title : String) (editable : Bool) (usage : List String) :
    (∃ line ∈ innerLines title editable usage, Text.Closes line.toList) ↔
      Text.Closes title.toList ∨ ∃ line ∈ usage, Text.Closes line.toList := by
  have titled : Text.Closes (" * " ++ title).toList ↔ Text.Closes title.toList := by
    have spelled : (" * " ++ title).toList = [' ', '*', ' '] ++ title.toList := by simp
    rw [spelled, Text.closes_append_iff (Or.inl (by decide)), or_iff_right (by decide)]
  have star : ¬Text.Closes " *".toList := by decide
  have heading : ¬Text.Closes " * Usage:".toList := by decide
  have note : ¬Text.Closes (if editable then " * Auto-generated file."
      else " * Auto-generated file. Do not edit directly!").toList := by
    cases editable <;> decide
  cases usage with
  | nil =>
      simp only [innerLines, List.isEmpty_nil, if_true, List.append_nil, List.exists_mem_cons_iff,
        titled, star, note, false_or]
  | cons first rest =>
      simp only [innerLines, List.isEmpty_cons, Bool.false_eq_true, if_false, List.cons_append,
        List.nil_append, List.exists_mem_cons_iff, titled, star, note, heading, false_or,
        List.map_cons, closes_usageLine_iff, List.mem_map, exists_exists_and_eq_and]

/-- The text between the opening of a banner and its own end mark. -/
def inner (title : String) (editable : Bool) (usage : List String) : List Char :=
  '*' :: '\n' :: ((Text.joinLines (innerLines title editable usage)).toList ++ ['\n', ' '])

theorem toList_block (title : String) (editable : Bool) (usage : List String) :
    (block title editable usage).toList =
      '/' :: '*' :: (inner title editable usage ++ ['*', '/', '\n']) := by
  have lines : blockLines title editable usage =
      "/**" :: innerLines title editable usage ++ [" */"] := rfl
  have first : (Text.joinLines ("/**" :: innerLines title editable usage)).toList =
      '/' :: '*' :: '*' :: '\n' :: (Text.joinLines (innerLines title editable usage)).toList :=
    Text.toList_joinLines_cons_cons "/**" (" * " ++ title) _
  rw [block, lines, String.toList_append,
    Text.toList_joinLines_concat (List.cons_ne_nil _ _), first]
  simp [inner]

theorem closes_inner_iff (title : String) (editable : Bool) (usage : List String) :
    Text.Closes (inner title editable usage) ↔
      Text.Closes title.toList ∨ ∃ line ∈ usage, Text.Closes line.toList := by
  have opening : ∀ rest, Text.Closes ('*' :: '\n' :: rest) ↔ Text.Closes rest := fun rest => by
    rw [Text.closes_cons_iff, Text.closes_cons_of_ne (by decide)]
    simp
  have ending : Text.Closes (['\n', ' '] : List Char) ↔ False := by decide
  rw [inner, opening, Text.closes_append_iff (Or.inr (by decide)), ending, or_false,
    Text.closes_joinLines_iff, exists_closes_innerLines_iff]

/-- The comment of a banner ends at its own mark exactly if neither the title nor a usage line
has one. -/
theorem commentRest?_block_append_iff (title : String) (editable : Bool) (usage : List String)
    (body : String) :
    Text.commentRest? (block title editable usage ++ body).toList = some ('\n' :: body.toList) ↔
      ¬(Text.Closes title.toList ∨ ∃ line ∈ usage, Text.Closes line.toList) := by
  rw [← closes_inner_iff title editable usage,
    ← Text.behindMark?_append_eq_iff _ ('\n' :: body.toList), String.toList_append, toList_block]
  simp [Text.commentRest?]

/-- A text that starts with a banner of some usage lines, whose comment ends at its own mark. -/
def Closed (usage : List String) (content : String) : Prop :=
  ∃ title editable body, '\n' ∉ title.toList ∧
    content = block title editable usage ++ body ∧
    Text.commentRest? content.toList = some ('\n' :: body.toList)

/-- A text that starts with a banner of some usage lines and with a title of one line. -/
def Heads (usage : List String) (content : String) : Prop :=
  ∃ title editable body, '\n' ∉ title.toList ∧ ¬Text.Closes title.toList ∧
    content = block title editable usage ++ body

section Heads

variable {usage : List String} {content : String}

theorem Heads.append (heads : Heads usage content) (more : String) :
    Heads usage (content ++ more) := by
  obtain ⟨title, editable, body, line, quiet, rfl⟩ := heads
  exact ⟨title, editable, body ++ more, line, quiet, String.append_assoc ..⟩

theorem heads_block {title : String} (line : '\n' ∉ title.toList)
    (quiet : ¬Text.Closes title.toList) (editable : Bool) (usage : List String) :
    Heads usage (block title editable usage) :=
  ⟨title, editable, "", line, quiet, String.append_empty.symm⟩

/-- The banner of a text is closed exactly if no usage line has an end mark. -/
theorem Heads.closed_iff (heads : Heads usage content) :
    Closed usage content ↔ ∀ line ∈ usage, ¬Text.Closes line.toList := by
  obtain ⟨title, editable, body, line, quiet, rfl⟩ := heads
  constructor
  · rintro ⟨_, _, _, -, same, ends⟩ line mem closes
    rw [same, commentRest?_block_append_iff] at ends
    exact ends (Or.inr ⟨line, mem, closes⟩)
  · intro each
    refine ⟨title, editable, body, line, rfl, ?_⟩
    rw [commentRest?_block_append_iff, not_or]
    exact ⟨quiet, fun ⟨line, mem, closes⟩ => each line mem closes⟩

theorem heads_fixed {title : String} (line : '\n' ∉ title.toList)
    (quiet : ¬Text.Closes title.toList) : Heads [] (fixed title) :=
  heads_block line quiet false []

theorem heads_editable {title : String} (line : '\n' ∉ title.toList)
    (quiet : ¬Text.Closes title.toList) : Heads [] (editable title) :=
  heads_block line quiet true []

end Heads

end Banner

/-- The usage lines of the banner of a file. -/
def bannerUsage (format : Format) (model : Model) (filename : String) : List String :=
  match format, filename, model.styles with
  | .emotion, "typography.ts", first :: _ => Emotion.usage first
  | .styledComponents, "mixins.ts", first :: _ =>
    StyledComponents.usage (StyledComponents.mixinOf first)
  | _, _, _ => []

section Artifacts

variable {model : Model}

theorem Tailwind.heads_artifacts :
    ∀ artifact ∈ artifacts model, Banner.Heads [] artifact.content := by
  have colors : Banner.Heads [] (colorsFile model) :=
    ((((Banner.heads_fixed (by decide) (by decide)).append _).append _).append _).append _
  have typography : Banner.Heads [] (typographyFile model) :=
    ((((((Banner.heads_fixed (by decide) (by decide)).append _).append _).append _).append
      _).append _).append _
  have config : Banner.Heads [] (configFile model) :=
    (Banner.heads_fixed (by decide) (by decide)).append _
  rw [artifacts]
  split <;> simp [colors, typography, config]

theorem CssVariables.heads_stylesheet {content : String} (h : stylesheet model = .ok content) :
    Banner.Heads [] content := by
  obtain ⟨gradients, -, made⟩ := exists_of_bind_eq_ok h
  rw [← Except.ok.inj made]
  exact ((((Banner.heads_fixed (by decide) (by decide)).append _).append _).append _).append _

theorem Emotion.heads_artifacts :
    ∀ artifact ∈ artifacts model,
      Banner.Heads (bannerUsage .emotion model artifact.filename) artifact.content := by
  have theme : Banner.Heads [] (themeFile model) :=
    ((Banner.heads_fixed (by decide) (by decide)).append _).append _
  have declaration : Banner.Heads [] declarationFile :=
    (Banner.heads_fixed (by decide) (by decide)).append _
  have typography : ∀ first, Banner.Heads (usage first) (typographyFile model first) := fun first =>
    (((Banner.heads_block (by decide) (by decide) false (usage first)).append _).append _).append _
  have provider : Banner.Heads [] (providerFile model) :=
    (Banner.heads_editable (by decide) (by decide)).append _
  rw [artifacts]
  cases styles : model.styles <;>
    simp [bannerUsage, styles, theme, declaration, typography, provider]

theorem StyledComponents.heads_artifacts :
    ∀ artifact ∈ artifacts model,
      Banner.Heads (bannerUsage .styledComponents model artifact.filename) artifact.content := by
  have theme : Banner.Heads [] (themeFile model) :=
    ((((Banner.heads_fixed (by decide) (by decide)).append _).append _).append _).append _
  have declaration : Banner.Heads [] declarationFile :=
    (Banner.heads_fixed (by decide) (by decide)).append _
  have mixins : ∀ first, Banner.Heads (usage (mixinOf first)) (mixinsFile model first) :=
    fun first =>
      ((Banner.heads_block (by decide) (by decide) false _).append _).append _
  have globals : Banner.Heads [] (globalFile model) :=
    (Banner.heads_editable (by decide) (by decide)).append _
  have provider : Banner.Heads [] (providerFile model) :=
    (Banner.heads_editable (by decide) (by decide)).append _
  rw [artifacts]
  cases styles : model.styles <;>
    simp [bannerUsage, styles, theme, declaration, mixins, globals, provider]

theorem VanillaExtract.heads_artifacts :
    ∀ artifact ∈ artifacts model, Banner.Heads [] artifact.content := by
  have tokens : Banner.Heads [] (tokensFile model) :=
    (Banner.heads_fixed (by decide) (by decide)).append _
  have recipes : Banner.Heads [] (recipesFile model) :=
    (((((Banner.heads_fixed (by decide) (by decide)).append _).append _).append _).append
      _).append _
  have sprinkles : Banner.Heads [] sprinklesFile :=
    (Banner.heads_fixed (by decide) (by decide)).append _
  have examples : Banner.Heads [] (exampleFile model) :=
    (Banner.heads_editable (by decide) (by decide)).append _
  rw [artifacts]
  split <;> simp [tokens, recipes, sprinkles, examples]

theorem PandaCss.heads_artifacts :
    ∀ artifact ∈ artifacts model, Banner.Heads [] artifact.content := by
  have config : Banner.Heads [] (configFile model) :=
    (Banner.heads_fixed (by decide) (by decide)).append _
  have examples : Banner.Heads [] (exampleFile model) :=
    (Banner.heads_editable (by decide) (by decide)).append _
  have postcss : Banner.Heads [] postcssFile :=
    (Banner.heads_editable (by decide) (by decide)).append _
  simp [artifacts, config, examples, postcss]

theorem Banner.lineComment_isPrefix (title more : String) :
    "// ".toList <+: (Banner.lineComment title ++ more).toList := by
  simp [Banner.lineComment]

/-- The files of a style sheet that is preprocessed start with comments of one line. -/
theorem Scss.lineComment_artifacts {artifacts : List Artifact}
    (h : Scss.artifacts model = .ok artifacts) :
    ∀ artifact ∈ artifacts, "// ".toList <+: artifact.content.toList := by
  obtain ⟨files, given, made⟩ := exists_of_bind_eq_ok h
  obtain ⟨colors, colored, listed⟩ := exists_of_bind_eq_ok given
  obtain ⟨gradients, -, written⟩ := exists_of_bind_eq_ok colored
  have front := Banner.lineComment_isPrefix
  have sheet : "// ".toList <+: colors.toList := by
    rw [← Except.ok.inj written, String.append_assoc, String.append_assoc]
    exact front _ _
  have typography : "// ".toList <+: (typographyPartial model).toList := by
    rw [typographyPartial, String.append_assoc]
    exact front _ _
  have forwards : "// ".toList <+: (index files).toList := by
    rw [index, String.append_assoc, String.append_assoc]
    exact front _ _
  have each : ∀ file ∈ files, "// ".toList <+: file.content.toList := by
    rw [← Except.ok.inj listed, List.forall_mem_append, List.forall_mem_singleton]
    refine ⟨sheet, ?_⟩
    split
    · exact List.forall_mem_singleton.mpr typography
    · exact List.forall_mem_nil _
  rw [← Except.ok.inj made, List.forall_mem_append, List.forall_mem_singleton]
  exact ⟨each, forwards⟩

/-- Every file starts with a banner or with a comment of one line. -/
theorem heads_or_lineComment_of_mem_generate {format : Format} {artifacts : List Artifact}
    (h : generate format model = .ok artifacts) :
    ∀ artifact ∈ artifacts,
      Banner.Heads (bannerUsage format model artifact.filename) artifact.content ∨
        "// ".toList <+: artifact.content.toList := by
  intro artifact mem
  cases format with
  | tailwind =>
      cases h
      exact Or.inl (Tailwind.heads_artifacts artifact mem)
  | cssVariables =>
      obtain ⟨content, made, listed⟩ := exists_of_bind_eq_ok h
      rw [← Except.ok.inj listed, List.mem_singleton] at mem
      rw [mem]
      exact Or.inl (CssVariables.heads_stylesheet made)
  | scss => exact Or.inr (Scss.lineComment_artifacts h artifact mem)
  | emotion =>
      cases h
      exact Or.inl (Emotion.heads_artifacts artifact mem)
  | styledComponents =>
      cases h
      exact Or.inl (StyledComponents.heads_artifacts artifact mem)
  | vanillaExtract =>
      cases h
      exact Or.inl (VanillaExtract.heads_artifacts artifact mem)
  | pandaCss =>
      cases h
      exact Or.inl (PandaCss.heads_artifacts artifact mem)

end Artifacts

section Usage

/-- The usage lines of tagged templates have the marks of the keys that they access. -/
theorem Emotion.exists_closes_usage_iff (entry : StyleEntry) :
    (∃ line ∈ usage entry, Text.Closes line.toList) ↔
      Text.Closes entry.device.toList ∨ Text.Closes entry.locale.toList ∨
        Text.Closes (Key.withoutHyphens entry.name).toList := by
  have access : ∀ chain : String, Text.Closes ("  $\x7btypography" ++ chain ++ "\x7d").toList ↔
      Text.Closes chain.toList := by
    intro chain
    rw [String.toList_append, String.toList_append]
    exact Text.closes_between_iff (by decide) (by decide) (by decide)
  have imports : ¬Text.Closes "import styled from '@emotion/styled';".toList := by decide
  have typography : ¬Text.Closes "import \x7b typography \x7d from './typography';".toList := by
    decide
  have empty : ¬Text.Closes "".toList := by decide
  have title : ¬Text.Closes "const Title = styled.h1`".toList := by decide
  have ending : ¬Text.Closes "`;".toList := by decide
  simp only [usage, accessLines, List.exists_mem_cons_iff, imports, typography, empty, title,
    ending, access, Script.closes_accessChain_iff, List.not_mem_nil, false_and, exists_false,
    or_false, false_or]

/-- The usage lines of mixins have no end mark, since the names of constants have no stars. -/
theorem StyledComponents.not_closes_usage (entry : StyleEntry) :
    ∀ line ∈ usage (mixinOf entry), ¬Text.Closes line.toList := by
  have star : '*' ∉ (mixinOf entry).toList := fun mem => by
    have part := Script.isIdentifierPart_of_mem_identifier mem
    revert part
    decide +kernel
  intro line mem
  apply Text.not_closes_of_not_mem
  left
  simp only [usage, List.mem_cons, List.not_mem_nil, or_false] at mem
  rcases mem with rfl | rfl | rfl | rfl | rfl | rfl <;> simp [star]

/-- Only the banner of the tagged templates can have marks in its usage lines. -/
theorem exists_closes_bannerUsage {format : Format} {model : Model} {filename : String}
    (closes : ∃ line ∈ bannerUsage format model filename, Text.Closes line.toList) :
    ∃ first ∈ model.styles.head?, Text.Closes first.device.toList ∨
      Text.Closes first.locale.toList ∨ Text.Closes (Key.withoutHyphens first.name).toList := by
  unfold bannerUsage at closes
  split at closes
  case h_1 first _ listed =>
      rw [listed]
      exact ⟨first, rfl, (Emotion.exists_closes_usage_iff first).mp closes⟩
  case h_2 first _ listed =>
      obtain ⟨line, mem, own⟩ := closes
      exact absurd own (StyledComponents.not_closes_usage first line mem)
  case h_3 => simp at closes

end Usage

namespace CssVariables

variable {device : Option String} {entries : List StyleEntry}

/-- The comment of a device ends at its own mark exactly if the device has none. -/
theorem commentRest?_deviceComment_iff (device after : String) :
    Text.commentRest? (deviceComment device ++ after).toList.tail = some ('\n' :: after.toList) ↔
      ¬Text.Closes device.toList := by
  have spelled : (deviceComment device ++ after).toList.tail =
      '/' :: '*' :: (([' '] ++ Text.upper device.toList ++ [' ']) ++
        '*' :: '/' :: '\n' :: after.toList) := by
    simp [deviceComment]
  rw [spelled, Text.commentRest?, Text.behindMark?_append_eq_iff,
    Text.closes_between_iff (by decide) (by decide) (by decide)]
  exact not_congr (Text.keepsMarks_upperChar.closes_flatMap_iff device.toList)

/-- A comment among the classes is the one of a device that has styles. -/
theorem exists_of_deviceComment_mem {name : String}
    (mem : deviceComment name ∈ styleClasses device entries) :
    ∃ entry ∈ entries, deviceComment name = deviceComment entry.device := by
  induction entries generalizing device with
  | nil => exact absurd mem List.not_mem_nil
  | cons entry rest ih =>
      have rule : deviceComment name ≠ styleClass entry := fun same => by
        have first := congrArg (fun block => block.toList.head?) same
        simp [deviceComment, styleClass] at first
      rw [styleClasses, List.mem_append, List.mem_cons, or_iff_right rule] at mem
      rcases mem with header | later
      · split at header
        case isTrue => exact absurd header List.not_mem_nil
        case isFalse =>
            exact ⟨entry, List.mem_cons_self, List.mem_singleton.mp header⟩
      · obtain ⟨other, listed, same⟩ := ih later
        exact ⟨other, List.mem_cons_of_mem entry listed, same⟩

/-- Every style has the comment of its device in front, unless the device goes on. -/
theorem deviceComment_mem_or {entry : StyleEntry} (mem : entry ∈ entries) :
    device = some entry.device ∨ deviceComment entry.device ∈ styleClasses device entries := by
  induction entries generalizing device with
  | nil => exact absurd mem List.not_mem_nil
  | cons first rest ih =>
      have own : device = some first.device ∨
          deviceComment first.device ∈ styleClasses device (first :: rest) := by
        by_cases goes : device = some first.device
        · exact Or.inl goes
        · rw [styleClasses, if_neg goes]
          exact Or.inr List.mem_cons_self
      rcases List.mem_cons.mp mem with rfl | later
      · exact own
      · rcases @ih (some first.device) later with same | found
        · rwa [Option.some.inj same] at own
        · right
          rw [styleClasses]
          exact List.mem_append_right _ (List.mem_cons_of_mem _ found)

theorem exists_stylesheet_eq_append {model : Model} {content : String}
    (h : stylesheet model = .ok content) :
    ∃ front, content = front ++ String.join (styleClasses none model.styles) := by
  obtain ⟨gradients, -, made⟩ := exists_of_bind_eq_ok h
  rw [← Except.ok.inj made, Model.hasTypography]
  cases styles : model.styles with
  | nil => exact ⟨_, String.append_empty.symm⟩
  | cons first rest => exact ⟨_, (String.append_assoc ..).symm⟩

end CssVariables

/-- No name of a model closes a comment of a generated file. Each file starts with a banner that
ends at its own mark, or with a comment of one line. The style sheet ends with the blocks of its
classes, and each block that is the comment of a device ends at its own mark, with the blocks
after it left. -/
structure CommentsClosed (model : Model) : Prop where
  banners : ∀ format artifacts, generate format model = .ok artifacts → ∀ artifact ∈ artifacts,
    Banner.Closed (bannerUsage format model artifact.filename) artifact.content ∨
      "// ".toList <+: artifact.content.toList
  classes : ∀ content, CssVariables.stylesheet model = .ok content →
    ∃ front, content = front ++ String.join (CssVariables.styleClasses none model.styles)
  headers : ∀ before device after,
    CssVariables.styleClasses none model.styles =
        before ++ CssVariables.deviceComment device :: after →
      Text.commentRest? (CssVariables.deviceComment device ++ String.join after).toList.tail =
        some ('\n' :: (String.join after).toList)

section CommentsClosed

variable {model : Model}

theorem CommentsClosed.device (closed : CommentsClosed model) :
    ∀ entry ∈ model.styles, ¬Text.Closes entry.device.toList := by
  intro entry mem
  have header : CssVariables.deviceComment entry.device ∈
      CssVariables.styleClasses none model.styles :=
    (CssVariables.deviceComment_mem_or mem).resolve_left (by simp)
  obtain ⟨before, after, split⟩ := List.append_of_mem header
  exact (CssVariables.commentRest?_deviceComment_iff _ _).mp (closed.headers _ _ _ split)

/-- A banner is no comment of one line. -/
theorem Banner.Heads.not_lineComment {usage : List String} {content : String}
    (heads : Heads usage content) : ¬"// ".toList <+: content.toList := by
  obtain ⟨title, editable, body, -, -, rfl⟩ := heads
  rw [String.toList_append, toList_block]
  simp

theorem CommentsClosed.first (closed : CommentsClosed model) {first : StyleEntry}
    (here : first ∈ model.styles.head?) :
    ¬Text.Closes first.locale.toList ∧ ¬Text.Closes (Key.withoutHyphens first.name).toList := by
  obtain ⟨rest, listed⟩ := List.head?_eq_some_iff.mp here
  have usage : bannerUsage .emotion model "typography.ts" = Emotion.usage first := by
    simp only [bannerUsage, listed]
  have mem : ⟨"typography.ts", "typescript", Emotion.typographyFile model first⟩ ∈
      Emotion.artifacts model := by
    simp [Emotion.artifacts, listed]
  have heads := Emotion.heads_artifacts _ mem
  have ends := (closed.banners .emotion _ rfl _ mem).resolve_right heads.not_lineComment
  rw [heads.closed_iff, usage] at ends
  have quiet := (Emotion.exists_closes_usage_iff first).not.mp fun ⟨line, listed, own⟩ =>
    ends line listed own
  rw [not_or, not_or] at quiet
  exact quiet.2

/-- The comments of generated files end at their own marks exactly if no device has an end mark
in its name, and the first style has none in its locale and in its name without hyphens. -/
theorem comments_closed_iff (model : Model) :
    CommentsClosed model ↔
      (∀ entry ∈ model.styles, ¬Text.Closes entry.device.toList) ∧
      ∀ first ∈ model.styles.head?, ¬Text.Closes first.locale.toList ∧
        ¬Text.Closes (Key.withoutHyphens first.name).toList := by
  constructor
  · exact fun closed => ⟨closed.device, fun first here => closed.first here⟩
  · rintro ⟨devices, firsts⟩
    constructor
    · intro format artifacts h artifact mem
      refine (heads_or_lineComment_of_mem_generate h artifact mem).imp_left fun heads => ?_
      rw [heads.closed_iff]
      intro line listed closes
      obtain ⟨first, here, marks⟩ := exists_closes_bannerUsage ⟨line, listed, closes⟩
      rcases marks with device | locale | name
      · exact devices first (List.mem_of_head? here) device
      · exact (firsts first here).1 locale
      · exact (firsts first here).2 name
    · exact fun content h => CssVariables.exists_stylesheet_eq_append h
    · intro before device after split
      have mem : CssVariables.deviceComment device ∈
          CssVariables.styleClasses none model.styles := split ▸ by simp
      obtain ⟨entry, listed, same⟩ := CssVariables.exists_of_deviceComment_mem mem
      rw [same]
      exact (CssVariables.commentRest?_deviceComment_iff _ _).mpr (devices entry listed)

end CommentsClosed

/-- An export with a device whose name is an end mark. -/
def starredSections : Entries Json :=
  [("font", .object [("*/", .object [("kr", .object [("title",
    Export.leafNode "custom-fontStyle" (.object [("fontFamily", .string "Arial"),
      ("fontSize", .number (.integer 16)), ("fontWeight", .number (.integer 400)),
      ("lineHeight", .number (.integer 24))]))])])])]

/-- The device ends the comment in front of its classes early, and a banner as well. -/
theorem comments_starredSections :
    (Export.model starredSections).styles =
      [⟨"*/", "kr", "title", ⟨"Arial", .integer 16, .integer 400, .integer 24, .integer 0⟩⟩] ∧
    Text.commentRest? (CssVariables.deviceComment "*/").toList.tail = some " */\n".toList ∧
    ¬CommentsClosed (Export.model starredSections) := by
  have styles : (Export.model starredSections).styles =
      [⟨"*/", "kr", "title", ⟨"Arial", .integer 16, .integer 400, .integer 24, .integer 0⟩⟩] := by
    decide +kernel
  refine ⟨styles, by decide +kernel, fun closed => ?_⟩
  exact closed.device _ (styles ▸ List.mem_singleton_self _) (by decide)

end DesignTokens
