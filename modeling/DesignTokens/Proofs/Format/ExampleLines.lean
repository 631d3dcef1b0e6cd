import DesignTokens.Format.Emotion
import DesignTokens.Format.PandaCss
import DesignTokens.Format.StyledComponents
import DesignTokens.Format.VanillaExtract
import DesignTokens.Proofs.Script.NamedLines

/-!
# The lines of usage examples

Each generated example uses the names that it is given on lines of its own, and no other line of the
example begins as these lines do. An example that is given no name has no such line.
-/

namespace DesignTokens

open Script (LacksLine LinesUse Quiet QuietAround QuietBehind Uses linesUse_singleton
  lacksLine_name lacksLine_accesses)

theorem append_inside (a b c d e : String) : a ++ (b ++ c ++ d) ++ e = a ++ b ++ c ++ d ++ e := by
  simp only [String.append_assoc]

theorem Text.withoutTrailingBlank_append {front closing : String} {c : Char}
    (last : closing.toList.getLast? = some c) (solid : isBlank c = false) :
    withoutTrailingBlank (front ++ closing) = front ++ closing := by
  obtain ⟨rest, whole⟩ := List.getLast?_eq_some_iff.mp last
  rw [withoutTrailingBlank, dropEnd, String.toList_append, whole, ← List.append_assoc,
    List.reverse_concat, List.dropWhile_cons_of_neg (by simp [solid]), ← List.reverse_concat,
    List.reverse_reverse, List.append_assoc, ← whole, ← String.toList_append, String.ofList_toList]

namespace Banner

variable {title : String}

/-- The lines of a comment stand in front of the lines that follow it. -/
theorem block_append_joinLines (title : String) (editable : Bool) (usage : List String)
    {lines : List String} (nonempty : lines ≠ []) :
    block title editable usage ++ Text.joinLines lines =
      Text.joinLines (blockLines title editable usage ++ lines) := by
  have comment : blockLines title editable usage ≠ [] := by
    simp [blockLines]
  exact (String.intercalate_append_of_ne_nil comment nonempty).symm

theorem block_eq_joinLines (title : String) (editable : Bool) (usage : List String) :
    block title editable usage = Text.joinLines (blockLines title editable usage ++ [""]) := by
  rw [← block_append_joinLines title editable usage (List.cons_ne_nil "" []), Text.joinLines,
    String.intercalate_singleton, String.append_empty]

/-- A usage line that ends with no blank stands in the comment as it is. -/
theorem usageLine_eq {front name closing : String} {c : Char}
    (last : closing.toList.getLast? = some c) (solid : Text.isBlank c = false) :
    Text.withoutTrailingBlank (" * " ++ (front ++ name ++ closing)) =
      " * " ++ front ++ name ++ closing := by
  rw [← String.append_assoc, Text.withoutTrailingBlank_append last solid, ← String.append_assoc]

/-- The comment of a file that may be edited lacks an opening that is none of comments. -/
theorem lacksLine_editable {begin : List Char}
    (quiet : Quiet begin ["/**", " *", " * Auto-generated file.", " */"])
    (around : QuietAround begin [' ', '*', ' '] []) (solid : '\n' ∉ title.toList) :
    ∀ line ∈ blockLines title true [], LacksLine (String.ofList begin) line := by
  have titled : LacksLine (String.ofList begin) (" * " ++ title ++ "") :=
    lacksLine_name around solid
  rw [String.append_empty] at titled
  have others := quiet.lacksLine
  simp only [List.forall_mem_cons] at others
  obtain ⟨first, star, automatic, last, -⟩ := others
  have lines : blockLines title true [] =
      ["/**", " * " ++ title, " *", " * Auto-generated file.", " */"] := rfl
  simp only [lines, List.forall_mem_cons]
  exact ⟨first, titled, star, automatic, last, List.forall_mem_nil _⟩

end Banner

namespace Theme

/-- What stands in front of the access of a color in an example that is commented out. -/
def colorOpening : String := "//   color: $\x7b(\x7b theme \x7d) => theme.colors"

theorem commented_colorLine (path : List String) :
    (colorLines "color" (some path)).map ("// " ++ ·) =
      [colorOpening ++ Script.accessChain path ++ "\x7d;"] := by
  simp only [colorLines, List.map_cons, List.map_nil, ← String.append_assoc]
  rfl

/-- The line of a color lacks an opening if it does so for every access. -/
theorem lacksLine_colorLines {opening : String}
    (access : ∀ path, LacksLine opening (colorOpening ++ Script.accessChain path ++ "\x7d;"))
    (path? : Option (List String)) :
    ∀ line ∈ (colorLines "color" path?).map ("// " ++ ·), LacksLine opening line := by
  cases path? with
  | none => exact List.forall_mem_nil _
  | some path =>
      rw [commented_colorLine, List.forall_mem_singleton]
      exact access path

theorem linesUse_colorLines (path? : Option (List String)) :
    LinesUse colorOpening "\x7d;" ((colorLines "color" path?).map ("// " ++ ·))
      (path?.map Script.accessChain) := by
  cases path? with
  | none => exact List.forall_mem_nil _
  | some path =>
      rw [commented_colorLine]
      exact linesUse_singleton _

end Theme

namespace Emotion

theorem uses_typographyComment (path : List String) :
    Uses " *   $\x7btypography" "\x7d"
      (Banner.block "Typography Styles for Emotion" false (accessLines path))
      (some (Script.accessChain path)) := by
  have lines : Banner.blockLines "Typography Styles for Emotion" false (accessLines path) ++ [""] =
      ["/**", " * Typography Styles for Emotion", " *",
        " * Auto-generated file. Do not edit directly!", " *", " * Usage:",
        " * import styled from '@emotion/styled';",
        " * import \x7b typography \x7d from './typography';", " *",
        " * const Title = styled.h1`"] ++
        ([" *   $\x7btypography" ++ Script.accessChain path ++ "\x7d"] ++
          [" * `;", " */", ""]) := by
    have own : Text.withoutTrailingBlank
        (" * " ++ ("  $\x7btypography" ++ Script.accessChain path ++ "\x7d")) =
          " *   $\x7btypography" ++ Script.accessChain path ++ "\x7d" :=
      Banner.usageLine_eq rfl (by decide)
    rw [← own]
    rfl
  rw [Banner.block_eq_joinLines, lines]
  apply LinesUse.uses _ (by simp)
  apply LinesUse.behind_quiet _ (by repeat constructor)
  exact (linesUse_singleton _).above_quiet (by repeat constructor)

theorem linesUse_providerExample (path? : Option (List String)) :
    LinesUse Theme.colorOpening "\x7d;" (providerExample (Theme.colorLines "color" path?))
      (path?.map Script.accessChain) := by
  have color := Theme.linesUse_colorLines path?
  apply LinesUse.behind_quiet _ (by repeat constructor)
  cases path? with
  | none => exact color
  | some path =>
      apply LinesUse.above_quiet _ (by repeat constructor)
      exact color.behind_quiet (by repeat constructor)

theorem uses_providerText (path? : Option (List String)) :
    Uses Theme.colorOpening "\x7d;" (providerText (Theme.colorLines "color" path?))
      (path?.map Script.accessChain) := by
  rw [providerText, Banner.editable, Banner.block_append_joinLines _ _ _ (by simp)]
  apply LinesUse.uses _ (by simp)
  apply LinesUse.behind _
    (Banner.lacksLine_editable (by repeat constructor) (by decide) (by decide))
  apply LinesUse.above_quiet _ (by repeat constructor)
  exact (linesUse_providerExample path?).behind_quiet (by repeat constructor)

end Emotion

namespace StyledComponents

section Mixins

variable {mixin : String} (feed : '\n' ∉ mixin.toList)

theorem blockLines_usage (mixin : String) :
    Banner.blockLines "Typography Mixins for Styled-Components" false (usage mixin) ++ [""] =
      ["/**", " * Typography Mixins for Styled-Components", " *",
        " * Auto-generated file. Do not edit directly!", " *", " * Usage:",
        " * import styled from 'styled-components';"] ++
        ([" * import \x7b " ++ mixin ++ " \x7d from './mixins';"] ++
          ([" *", " * const Title = styled.h1`"] ++
            ([" *   $\x7b" ++ mixin ++ "\x7d"] ++ [" * `;", " */", ""]))) := by
  have imported : Text.withoutTrailingBlank
      (" * " ++ ("import \x7b " ++ mixin ++ " \x7d from './mixins';")) =
        " * import \x7b " ++ mixin ++ " \x7d from './mixins';" :=
    Banner.usageLine_eq rfl (by decide)
  have used : Text.withoutTrailingBlank (" * " ++ ("  $\x7b" ++ mixin ++ "\x7d")) =
      " *   $\x7b" ++ mixin ++ "\x7d" :=
    Banner.usageLine_eq rfl (by decide)
  rw [← imported, ← used]
  rfl

include feed in
/-- The comment of the mixins uses one mixin, in an import and in a template. -/
theorem uses_mixinsComment :
    let comment := Banner.block "Typography Mixins for Styled-Components" false (usage mixin)
    Uses " * import \x7b " " \x7d from './mixins';" comment (some mixin) ∧
      Uses " *   $\x7b" "\x7d" comment (some mixin) := by
  intro comment
  have lines : comment = Text.joinLines _ := Banner.block_eq_joinLines _ _ _
  rw [lines, blockLines_usage]
  constructor
  · have used : LacksLine " * import \x7b " (" *   $\x7b" ++ mixin ++ "\x7d") :=
      lacksLine_name (by decide) feed
    apply LinesUse.uses _ (by simp)
    apply LinesUse.behind_quiet _ (by repeat constructor)
    apply (linesUse_singleton mixin).above
    apply List.forall_mem_append.mpr ⟨Quiet.lacksLine (by repeat constructor), _⟩
    exact List.forall_mem_cons.mpr ⟨used, Quiet.lacksLine (by repeat constructor)⟩
  · have imported :
        LacksLine " *   $\x7b" (" * import \x7b " ++ mixin ++ " \x7d from './mixins';") :=
      lacksLine_name (by decide) feed
    apply LinesUse.uses _ (by simp)
    apply LinesUse.behind_quiet _ (by repeat constructor)
    apply LinesUse.behind _ (List.forall_mem_singleton.mpr imported)
    apply LinesUse.behind_quiet _ (by repeat constructor)
    exact (linesUse_singleton mixin).above_quiet (by repeat constructor)

include feed in
theorem lacksLine_mixinLines : ∀ line ∈ mixinLines mixin, LacksLine Theme.colorOpening line := by
  have imported :
      LacksLine Theme.colorOpening ("// import \x7b " ++ mixin ++ " \x7d from './mixins';") :=
    lacksLine_name (by decide) feed
  have used : LacksLine Theme.colorOpening ("//   $\x7b" ++ mixin ++ "\x7d") :=
    lacksLine_name (by decide) feed
  simp only [mixinLines, List.forall_mem_append, List.forall_mem_singleton]
  exact ⟨Quiet.lacksLine (by repeat constructor), imported,
    Quiet.lacksLine (by repeat constructor), used⟩

include feed in
theorem linesUse_mixinLines : LinesUse "//   $\x7b" "\x7d" (mixinLines mixin) (some mixin) := by
  have imported : LacksLine "//   $\x7b" ("// import \x7b " ++ mixin ++ " \x7d from './mixins';") :=
    lacksLine_name (by decide) feed
  apply LinesUse.behind_quiet _ (by repeat constructor)
  apply LinesUse.behind _ (List.forall_mem_singleton.mpr imported)
  exact (linesUse_singleton mixin).behind_quiet (by repeat constructor)

end Mixins

section Provider

variable {mixin? : Option String} (feed : ∀ mixin ∈ mixin?, '\n' ∉ mixin.toList)
variable (path? : Option (List String))

include feed in
theorem linesUse_componentExample_color :
    LinesUse Theme.colorOpening "\x7d;"
      (componentExample mixin? (Theme.colorLines "color" path?))
      (path?.map Script.accessChain) := by
  have color := Theme.linesUse_colorLines path?
  cases mixin? with
  | none =>
      cases path? with
      | none => exact color
      | some path =>
          apply LinesUse.above_quiet _ (by repeat constructor)
          exact color.behind_quiet (by repeat constructor)
  | some mixin =>
      rw [componentExample]
      apply LinesUse.behind _ (lacksLine_mixinLines (feed mixin rfl))
      exact color.above_quiet (by repeat constructor)

include feed in
theorem linesUse_componentExample_mixin :
    LinesUse "//   $\x7b" "\x7d" (componentExample mixin? (Theme.colorLines "color" path?))
      mixin? := by
  have color : ∀ line ∈ (Theme.colorLines "color" path?).map ("// " ++ ·),
      LacksLine "//   $\x7b" line :=
    Theme.lacksLine_colorLines (lacksLine_accesses (by decide) (by decide)) path?
  cases mixin? with
  | none =>
      cases path? with
      | none => exact List.forall_mem_nil _
      | some path =>
          apply List.forall_mem_append.mpr ⟨_, Quiet.lacksLine (by repeat constructor)⟩
          exact List.forall_mem_append.mpr ⟨Quiet.lacksLine (by repeat constructor), color⟩
  | some mixin =>
      rw [componentExample]
      apply (linesUse_mixinLines (feed mixin rfl)).above
      exact List.forall_mem_append.mpr ⟨color, Quiet.lacksLine (by repeat constructor)⟩

include feed in
theorem uses_providerText :
    let provider := providerText mixin? (Theme.colorLines "color" path?)
    Uses Theme.colorOpening "\x7d;" provider (path?.map Script.accessChain) ∧
      Uses "//   $\x7b" "\x7d" provider mixin? := by
  intro provider
  have lines : provider = Text.joinLines _ := Banner.block_append_joinLines _ _ _ (by simp)
  rw [lines]
  constructor
  · apply LinesUse.uses _ (by simp)
    apply LinesUse.behind _
      (Banner.lacksLine_editable (by repeat constructor) (by decide) (by decide))
    apply LinesUse.above_quiet _ (by repeat constructor)
    apply LinesUse.behind_quiet _ (by repeat constructor)
    exact (linesUse_componentExample_color feed path?).behind_quiet (by repeat constructor)
  · apply LinesUse.uses _ (by simp)
    apply LinesUse.behind _
      (Banner.lacksLine_editable (by repeat constructor) (by decide) (by decide))
    apply LinesUse.above_quiet _ (by repeat constructor)
    apply LinesUse.behind_quiet _ (by repeat constructor)
    exact (linesUse_componentExample_mixin feed path?).behind_quiet (by repeat constructor)

/-- The import of a mixin in an example that is commented out. -/
abbrev declaredImports : String → List String :=
  Script.declared "// import \x7b " " \x7d from './mixins';"

theorem flatMap_mixinLines {mixin : String} (feed : '\n' ∉ mixin.toList) :
    (mixinLines mixin).flatMap declaredImports = [mixin] := by
  have imported : declaredImports ("// import \x7b " ++ mixin ++ " \x7d from './mixins';") =
      [mixin] := Script.declared_declaration (by simp [feed])
  have used : LacksLine "// import \x7b " ("//   $\x7b" ++ mixin ++ "\x7d") :=
    lacksLine_name (by decide) feed
  have above : ∀ line ∈ ["//", "// // in a component",
      "// import styled from 'styled-components';"], LacksLine "// import \x7b " line :=
    Quiet.lacksLine (by repeat constructor)
  have below : ∀ line ∈ ["//", "// const Title = styled.h1`"] ++ ["//   $\x7b" ++ mixin ++ "\x7d"],
      LacksLine "// import \x7b " line :=
    List.forall_mem_append.mpr
      ⟨Quiet.lacksLine (by repeat constructor), List.forall_mem_singleton.mpr used⟩
  rw [mixinLines, List.flatMap_append, List.flatMap_append, List.flatMap_singleton, imported,
    Script.flatMap_declared_eq_nil above, Script.flatMap_declared_eq_nil below]
  rfl

include feed in
theorem flatMap_componentExample :
    (componentExample mixin? (Theme.colorLines "color" path?)).flatMap declaredImports =
      mixin?.toList := by
  have color : ∀ line ∈ (Theme.colorLines "color" path?).map ("// " ++ ·),
      LacksLine "// import \x7b " line :=
    Theme.lacksLine_colorLines (lacksLine_accesses (by decide) (by decide)) path?
  cases mixin? with
  | none =>
      cases path? with
      | none => rfl
      | some path =>
          apply Script.flatMap_declared_eq_nil
          apply List.forall_mem_append.mpr ⟨_, Quiet.lacksLine (by repeat constructor)⟩
          exact List.forall_mem_append.mpr ⟨Quiet.lacksLine (by repeat constructor), color⟩
  | some mixin =>
      have below : ∀ line ∈ (Theme.colorLines "color" path?).map ("// " ++ ·) ++ ["// `;"],
          LacksLine "// import \x7b " line :=
        List.forall_mem_append.mpr ⟨color, Quiet.lacksLine (by repeat constructor)⟩
      rw [componentExample, List.flatMap_append, flatMap_mixinLines (feed mixin rfl),
        Script.flatMap_declared_eq_nil below]
      rfl

include feed in
/-- The example of the provider imports the mixin that it uses and no other one. -/
theorem declaredImports_providerText :
    declaredImports (providerText mixin? (Theme.colorLines "color" path?)) = mixin?.toList := by
  have comment : ∀ line ∈ Banner.blockLines "Theme Provider" true [],
      LacksLine "// import \x7b " line :=
    Banner.lacksLine_editable (by repeat constructor) (by decide) (by decide)
  have component := flatMap_componentExample feed path?
  rw [providerText, Banner.editable, Banner.block_append_joinLines _ _ _ (by simp),
    declaredImports, Script.declared_joinLines _ _ (by simp)]
  apply Script.flatMap_declared_behind _ (Script.flatMap_declared_eq_nil comment)
  apply Script.flatMap_declared_above _
    (Script.flatMap_declared_eq_nil (Quiet.lacksLine (by repeat constructor)))
  apply Script.flatMap_declared_behind _
    (Script.flatMap_declared_eq_nil (Quiet.lacksLine (by repeat constructor)))
  -- the example imports the provider as well, but from its own file
  exact Script.flatMap_declared_behind component (by decide +kernel)

end Provider

/-- What stands in front of the access of a font in the global styles. -/
def fontOpening : String := "    font-family: $\x7b(\x7b theme \x7d) => theme.fontFamily"

theorem linesUse_fontExpression (key? : Option String) :
    LinesUse fontOpening " || 'sans-serif'\x7d;"
      ["    font-family: $\x7b(\x7b theme \x7d) => " ++ Theme.fontExpression key? ++ "\x7d;"]
      (key?.map fun key => Script.accessChain [key]) := by
  cases key? with
  | none => exact List.forall_mem_singleton.mpr (by decide +kernel)
  | some key =>
      have front : "    font-family: $\x7b(\x7b theme \x7d) => " ++ "theme.fontFamily" =
          fontOpening := rfl
      have back : " || 'sans-serif'" ++ "\x7d;" = " || 'sans-serif'\x7d;" := rfl
      have line : "    font-family: $\x7b(\x7b theme \x7d) => " ++
          Theme.fontExpression (some key) ++ "\x7d;" =
            fontOpening ++ Script.accessChain [key] ++ " || 'sans-serif'\x7d;" :=
        (append_inside _ _ _ _ _).trans (String.append_assoc.trans
          (congrArg₂ (fun start stop => start ++ Script.accessChain [key] ++ stop) front back))
      rw [line]
      exact linesUse_singleton _

theorem uses_globalText (key? : Option String) :
    Uses fontOpening " || 'sans-serif'\x7d;" (globalText (Theme.fontExpression key?))
      (key?.map fun key => Script.accessChain [key]) := by
  rw [globalText, Banner.editable, Banner.block_append_joinLines _ _ _ (by simp)]
  apply LinesUse.uses _ (by simp)
  apply LinesUse.behind _
    (Banner.lacksLine_editable (by repeat constructor) (by decide) (by decide))
  exact Script.linesUse_of_line 11 (Quiet.lacksLine (by repeat constructor)) rfl
    (Quiet.lacksLine (by repeat constructor)) (linesUse_fontExpression key?)

end StyledComponents

namespace VanillaExtract

variable {closing : String} {name? : Option String} {sample : Sample}

theorem uses_exampleText {begin : List Char}
    (quiet : Quiet begin ["/**", " *", " * Auto-generated file.", " */"])
    (around : QuietAround begin [' ', '*', ' '] [])
    (use : LinesUse (String.ofList begin) closing (exampleLines sample) name?) :
    Uses (String.ofList begin) closing (exampleText sample) name? := by
  rw [exampleText, Banner.editable, Banner.block_append_joinLines _ _ _ (by simp [exampleLines])]
  apply LinesUse.uses _ (by simp [exampleLines])
  exact use.behind (Banner.lacksLine_editable quiet around (by decide))

/-- The colors of a box as they stand in its line. -/
def boxColors (colors : String × String) : String :=
  Json.asciiLiteral colors.1 ++ ", desktop: " ++ Json.asciiLiteral colors.2

theorem feed_not_mem_boxColors (colors : String × String) : '\n' ∉ (boxColors colors).toList := by
  simp [boxColors, Script.feed_not_mem_asciiLiteral]

section Lacks

variable {begin : List Char}

/-- A key in quotes is of one line with what stands around it. -/
theorem lacksLine_quoted {front closing : String}
    (around : QuietAround begin front.toList closing.toList) (key : String) :
    LacksLine (String.ofList begin) (front ++ Json.asciiLiteral key ++ closing) := by
  have line := lacksLine_name around (Script.feed_not_mem_asciiLiteral key)
  rwa [String.ofList_toList, String.ofList_toList] at line

theorem lacksLine_boxColors
    (around : QuietAround begin "    color: \x7b mobile: ".toList " \x7d,".toList)
    (first last : String) : LacksLine (String.ofList begin) ("    color: \x7b mobile: " ++
      Json.asciiLiteral first ++ ", desktop: " ++ Json.asciiLiteral last ++ " \x7d,") := by
  have line := lacksLine_name around (feed_not_mem_boxColors (first, last))
  rwa [String.ofList_toList, String.ofList_toList, boxColors, append_inside] at line

theorem lacksLine_recipesImport
    (fixed : Quiet begin ["import \x7b typography \x7d from './typography.css';"])
    (sample : Sample) : ∀ line ∈ recipesImport sample, LacksLine (String.ofList begin) line := by
  unfold recipesImport
  cases sample.importsRecipes with
  | false => exact List.forall_mem_nil _
  | true => exact fixed.lacksLine

/-- A container lacks an opening if its other lines do and the opening differs from what stands in
front of its color. -/
theorem lacksLine_containerLines (fixed : Quiet begin (containerLines none))
    (color : QuietAround begin "  backgroundColor: vars.color[".toList "],".toList)
    (color? : Option String) :
    ∀ line ∈ containerLines color?, LacksLine (String.ofList begin) line := by
  have others := fixed.lacksLine
  cases color? with
  | none => exact others
  | some key =>
      simp only [containerLines, List.forall_mem_append, List.forall_mem_singleton] at others ⊢
      exact ⟨⟨others.1.1, lacksLine_quoted color key⟩, others.2⟩

/-- A title lacks an opening if its other lines do and the opening differs from what stands in front
of its style and of its color. -/
theorem lacksLine_titleExample
    (fixed : Quiet begin ["export const title = style([", "  \x7b", "  \x7d,", "]);", ""])
    (style : QuietAround begin "  typography".toList ",".toList)
    (behind : QuietBehind begin ",".toList)
    (color : QuietAround begin "    color: vars.color[".toList "],".toList)
    (sample : Sample) : ∀ line ∈ titleExample sample, LacksLine (String.ofList begin) line := by
  have others := fixed.lacksLine
  simp only [List.forall_mem_cons] at others
  obtain ⟨first, opened, closed, last, empty, -⟩ := others
  unfold titleExample
  cases sample.style? with
  | none => exact List.forall_mem_nil _
  | some path =>
      have access := lacksLine_accesses style behind path
      rw [String.ofList_toList, String.ofList_toList] at access
      cases sample.colors? with
      | none => simp [titleLines, first, last, empty, access]
      | some colors =>
          have own := lacksLine_quoted color colors.2
          simp [titleLines, first, opened, closed, last, empty, access, own]

/-- A box lacks an opening if its other lines do and the opening differs from what stands in front
of its colors and of its size. -/
theorem lacksLine_boxLines (fixed : Quiet begin (boxLines none none))
    (colors : QuietAround begin "    color: \x7b mobile: ".toList " \x7d,".toList)
    (size : QuietAround begin "    fontSize: ".toList ",".toList)
    (colors? : Option (String × String)) (size? : Option String) :
    ∀ line ∈ boxLines colors? size?, LacksLine (String.ofList begin) line := by
  have others := fixed.lacksLine
  simp only [boxLines, List.forall_mem_append] at others ⊢
  obtain ⟨⟨⟨front, -⟩, -⟩, back⟩ := others
  refine ⟨⟨⟨front, ?_⟩, ?_⟩, back⟩
  · cases colors? with
    | none => exact List.forall_mem_nil _
    | some pair => exact List.forall_mem_singleton.mpr (lacksLine_boxColors colors pair.1 pair.2)
  · cases size? with
    | none => exact List.forall_mem_nil _
    | some label => exact List.forall_mem_singleton.mpr (lacksLine_quoted size label)

end Lacks

section Own

theorem linesUse_recipesImport (sample : Sample) :
    LinesUse "import \x7b typography \x7d from './" "';" (recipesImport sample)
      (if sample.importsRecipes then some "typography.css" else none) := by
  unfold recipesImport
  cases sample.importsRecipes with
  | false => exact List.forall_mem_nil _
  | true => exact linesUse_singleton "typography.css"

theorem linesUse_containerLines (color? : Option String) :
    LinesUse "  backgroundColor: vars.color[" "]," (containerLines color?)
      (color?.map Json.asciiLiteral) := by
  cases color? with
  | none => exact Quiet.lacksLine (by repeat constructor)
  | some key =>
      apply LinesUse.above_quiet _ (by repeat constructor)
      exact (linesUse_singleton _).behind_quiet (by repeat constructor)

theorem linesUse_titleExample_style (sample : Sample) :
    LinesUse "  typography" "," (titleExample sample)
      (sample.style?.map Script.accessChain) := by
  unfold titleExample
  cases sample.style? with
  | none => exact List.forall_mem_nil _
  | some path =>
      apply Script.linesUse_of_line 1 (Quiet.lacksLine (by repeat constructor)) rfl _
        (linesUse_singleton _)
      cases sample.colors? with
      | none => exact Quiet.lacksLine (by repeat constructor)
      | some colors =>
          have color : LacksLine "  typography"
              ("    color: vars.color[" ++ Json.asciiLiteral colors.2 ++ "],") :=
            lacksLine_quoted (by decide) colors.2
          apply List.forall_mem_append.mpr ⟨_, Quiet.lacksLine (by repeat constructor)⟩
          refine List.forall_mem_cons.mpr ⟨Script.lacksLine_of_quietLine rfl, ?_⟩
          exact List.forall_mem_cons.mpr ⟨color, Quiet.lacksLine (by repeat constructor)⟩

theorem linesUse_titleExample_color (sample : Sample) :
    LinesUse "    color: vars.color[" "]," (titleExample sample)
      (sample.style?.bind fun _ => (sample.colors?.map Prod.snd).map Json.asciiLiteral) := by
  unfold titleExample
  cases sample.style? with
  | none => exact List.forall_mem_nil _
  | some path =>
      have access : LacksLine "    color: vars.color["
          ("  typography" ++ Script.accessChain path ++ ",") :=
        lacksLine_accesses (by decide) (by decide) path
      apply LinesUse.above_quiet _ (by repeat constructor)
      apply LinesUse.behind _ (List.forall_mem_cons.mpr
        ⟨Script.lacksLine_of_quietLine rfl, List.forall_mem_singleton.mpr access⟩)
      cases sample.colors? with
      | none => exact List.forall_mem_nil _
      | some colors =>
          exact Script.linesUse_of_line 1 (Quiet.lacksLine (by repeat constructor)) rfl
            (Quiet.lacksLine (by repeat constructor)) (linesUse_singleton _)

theorem linesUse_boxLines_colors (colors? : Option (String × String)) (size? : Option String) :
    LinesUse "    color: \x7b mobile: " " \x7d," (boxLines colors? size?)
      (colors?.map boxColors) := by
  have size : ∀ label,
      LacksLine "    color: \x7b mobile: " ("    fontSize: " ++ Json.asciiLiteral label ++ ",") :=
    lacksLine_quoted (by decide)
  apply LinesUse.above_quiet _ (by repeat constructor)
  apply LinesUse.above
  · apply LinesUse.behind_quiet _ (by repeat constructor)
    cases colors? with
    | none => exact List.forall_mem_nil _
    | some colors =>
        have line : "    color: \x7b mobile: " ++ boxColors colors ++ " \x7d," = _ :=
          append_inside _ _ _ _ _
        simp only [← line]
        exact linesUse_singleton (boxColors colors)
  · cases size? with
    | none => exact List.forall_mem_nil _
    | some label => exact List.forall_mem_singleton.mpr (size label)

theorem linesUse_boxLines_size (colors? : Option (String × String)) (size? : Option String) :
    LinesUse "    fontSize: " "," (boxLines colors? size?) (size?.map Json.asciiLiteral) := by
  apply LinesUse.above_quiet _ (by repeat constructor)
  apply LinesUse.behind
  · cases size? with
    | none => exact List.forall_mem_nil _
    | some label => exact linesUse_singleton _
  · apply List.forall_mem_append.mpr ⟨Quiet.lacksLine (by repeat constructor), _⟩
    cases colors? with
    | none => exact List.forall_mem_nil _
    | some colors =>
        exact List.forall_mem_singleton.mpr (lacksLine_boxColors (by decide) colors.1 colors.2)

end Own

section Whole

theorem uses_exampleText_import (sample : Sample) :
    Uses "import \x7b typography \x7d from './" "';" (exampleText sample)
      (if sample.importsRecipes then some "typography.css" else none) := by
  apply uses_exampleText (by repeat constructor) (by decide)
  apply LinesUse.behind_quiet _ (by repeat constructor)
  apply (linesUse_recipesImport sample).above
  simp only [List.forall_mem_append]
  exact ⟨Quiet.lacksLine (by repeat constructor),
    lacksLine_containerLines (by repeat constructor) (by decide) _,
    lacksLine_titleExample (by repeat constructor) (by decide) (by decide) (by decide) _,
    lacksLine_boxLines (by repeat constructor) (by decide) (by decide) _ _,
    Quiet.lacksLine (by repeat constructor)⟩

/-- What stands below the imports of an example is used by it if the imports lack the opening. -/
theorem uses_exampleText_of_body {begin : List Char}
    (quiet : Quiet begin ["/**", " *", " * Auto-generated file.", " */"])
    (around : QuietAround begin [' ', '*', ' '] [])
    (fixed : Quiet begin ["", "// 1. Base styles (in a *.css.ts file)",
      "import \x7b style \x7d from '@vanilla-extract/css';",
      "import \x7b vars \x7d from './tokens.css';"])
    (recipes : Quiet begin ["import \x7b typography \x7d from './typography.css';"])
    (blank : Quiet begin [""])
    (use : LinesUse (String.ofList begin) closing (containerLines (sample.colors?.map Prod.fst) ++
      (titleExample sample ++ (boxLines sample.colors? sample.size? ++ [""]))) name?) :
    Uses (String.ofList begin) closing (exampleText sample) name? := by
  apply uses_exampleText quiet around
  apply LinesUse.behind_quiet _ fixed
  apply LinesUse.behind _ (lacksLine_recipesImport recipes sample)
  exact use.behind_quiet blank

theorem uses_exampleText_background (sample : Sample) :
    Uses "  backgroundColor: vars.color[" "]," (exampleText sample)
      ((sample.colors?.map Prod.fst).map Json.asciiLiteral) := by
  apply uses_exampleText_of_body (by repeat constructor) (by decide) (by repeat constructor)
    (by repeat constructor) (by repeat constructor)
  apply (linesUse_containerLines _).above
  simp only [List.forall_mem_append]
  exact ⟨lacksLine_titleExample (by repeat constructor) (by decide) (by decide) (by decide) _,
    lacksLine_boxLines (by repeat constructor) (by decide) (by decide) _ _,
    Quiet.lacksLine (by repeat constructor)⟩

theorem uses_exampleText_style (sample : Sample) :
    Uses "  typography" "," (exampleText sample)
      (sample.style?.map Script.accessChain) := by
  apply uses_exampleText_of_body (by repeat constructor) (by decide) (by repeat constructor)
    (by repeat constructor) (by repeat constructor)
  apply LinesUse.behind _ (lacksLine_containerLines (by repeat constructor) (by decide) _)
  apply (linesUse_titleExample_style sample).above
  simp only [List.forall_mem_append]
  exact ⟨lacksLine_boxLines (by repeat constructor) (by decide) (by decide) _ _,
    Quiet.lacksLine (by repeat constructor)⟩

theorem uses_exampleText_titleColor (sample : Sample) :
    Uses "    color: vars.color[" "]," (exampleText sample)
      (sample.style?.bind fun _ => (sample.colors?.map Prod.snd).map Json.asciiLiteral) := by
  apply uses_exampleText_of_body (by repeat constructor) (by decide) (by repeat constructor)
    (by repeat constructor) (by repeat constructor)
  apply LinesUse.behind _ (lacksLine_containerLines (by repeat constructor) (by decide) _)
  apply (linesUse_titleExample_color sample).above
  simp only [List.forall_mem_append]
  exact ⟨lacksLine_boxLines (by repeat constructor) (by decide) (by decide) _ _,
    Quiet.lacksLine (by repeat constructor)⟩

theorem uses_exampleText_boxColors (sample : Sample) :
    Uses "    color: \x7b mobile: " " \x7d," (exampleText sample)
      (sample.colors?.map boxColors) := by
  apply uses_exampleText_of_body (by repeat constructor) (by decide) (by repeat constructor)
    (by repeat constructor) (by repeat constructor)
  apply LinesUse.behind _ (lacksLine_containerLines (by repeat constructor) (by decide) _)
  apply LinesUse.behind _
    (lacksLine_titleExample (by repeat constructor) (by decide) (by decide) (by decide) _)
  exact (linesUse_boxLines_colors _ _).above_quiet (by repeat constructor)

theorem uses_exampleText_size (sample : Sample) :
    Uses "    fontSize: " "," (exampleText sample)
      (sample.size?.map Json.asciiLiteral) := by
  apply uses_exampleText_of_body (by repeat constructor) (by decide) (by repeat constructor)
    (by repeat constructor) (by repeat constructor)
  apply LinesUse.behind _ (lacksLine_containerLines (by repeat constructor) (by decide) _)
  apply LinesUse.behind _
    (lacksLine_titleExample (by repeat constructor) (by decide) (by decide) (by decide) _)
  exact (linesUse_boxLines_size _ _).above_quiet (by repeat constructor)

end Whole

end VanillaExtract

namespace PandaCss

variable (sample : Sample)

theorem linesUse_cardLines (color? : Option (List String)) :
    LinesUse "        color: '" "'," (cardLines color?) (color?.map (".".intercalate ·)) := by
  apply LinesUse.above_quiet _ (by repeat constructor)
  cases color? with
  | none => exact List.forall_mem_nil _
  | some path => exact linesUse_singleton _

theorem linesUse_headingExample :
    LinesUse "          textStyle: '" "'," (headingExample sample)
      (sample.style?.map (".".intercalate ·)) := by
  unfold headingExample
  cases sample.style? with
  | none => exact List.forall_mem_nil _
  | some path =>
      exact Script.linesUse_of_line 2 (Quiet.lacksLine (by repeat constructor)) rfl
        (Quiet.lacksLine (by repeat constructor)) (linesUse_singleton _)

theorem uses_exampleText {begin : List Char} {closing : String} {name? : Option String}
    (quiet : Quiet begin ["/**", " *", " * Auto-generated file.", " */"])
    (around : QuietAround begin [' ', '*', ' '] [])
    (use : LinesUse (String.ofList begin) closing (exampleLines sample) name?) :
    Uses (String.ofList begin) closing (exampleText sample) name? := by
  rw [exampleText, Banner.editable,
    Banner.block_append_joinLines _ _ _ (by simp [exampleLines, frontLines])]
  apply LinesUse.uses _ (by simp [exampleLines, frontLines])
  exact use.behind (Banner.lacksLine_editable quiet around (by decide))

/-- The names of a path are joined as they are, so a feed in one of them could begin any line. The
color is the only one that is used so unless the text style has a feed. -/
theorem uses_exampleText_color
    (solid : ∀ path ∈ sample.style?, '\n' ∉ (".".intercalate path).toList) :
    Uses "        color: '" "'," (exampleText sample)
      (sample.color?.map (".".intercalate ·)) := by
  have heading : ∀ line ∈ headingExample sample, LacksLine "        color: '" line := by
    unfold headingExample
    cases style : sample.style? with
    | none => exact List.forall_mem_nil _
    | some path =>
        have line : LacksLine "        color: '"
            ("          textStyle: '" ++ ".".intercalate path ++ "',") :=
          lacksLine_name (by decide) (solid path style)
        refine List.forall_mem_cons.mpr ⟨Script.lacksLine_of_quietLine rfl, ?_⟩
        refine List.forall_mem_cons.mpr ⟨Script.lacksLine_of_quietLine rfl, ?_⟩
        exact List.forall_mem_cons.mpr ⟨line, Quiet.lacksLine (by repeat constructor)⟩
  apply uses_exampleText sample (by repeat constructor) (by decide)
  apply LinesUse.behind_quiet _ (by repeat constructor)
  apply (linesUse_cardLines sample.color?).above
  simp only [List.forall_mem_append]
  exact ⟨Quiet.lacksLine (by repeat constructor), heading, Quiet.lacksLine (by repeat constructor)⟩

theorem uses_exampleText_style
    (solid : ∀ path ∈ sample.color?, '\n' ∉ (".".intercalate path).toList) :
    Uses "          textStyle: '" "'," (exampleText sample)
      (sample.style?.map (".".intercalate ·)) := by
  have card : ∀ line ∈ cardLines sample.color?, LacksLine "          textStyle: '" line := by
    apply List.forall_mem_append.mpr ⟨_, Quiet.lacksLine (by repeat constructor)⟩
    cases color : sample.color? with
    | none => exact List.forall_mem_nil _
    | some path =>
        exact List.forall_mem_singleton.mpr (lacksLine_name (by decide) (solid path color))
  apply uses_exampleText sample (by repeat constructor) (by decide)
  apply LinesUse.behind_quiet _ (by repeat constructor)
  apply LinesUse.behind _ card
  apply LinesUse.behind_quiet _ (by repeat constructor)
  exact (linesUse_headingExample sample).above_quiet (by repeat constructor)

/-- Whatever its names are, the example has a line of the color and one of the text style. -/
theorem exampleText_shows : ∃ lines, exampleText sample = Text.joinLines lines ∧
    (∀ path ∈ sample.color?, "        color: '" ++ ".".intercalate path ++ "'," ∈ lines) ∧
    ∀ path ∈ sample.style?, "          textStyle: '" ++ ".".intercalate path ++ "'," ∈ lines := by
  refine ⟨_, Banner.block_append_joinLines _ _ _ (by simp [exampleLines, frontLines]), ?_, ?_⟩
  · intro path color
    have own : "        color: '" ++ ".".intercalate path ++ "'," ∈ cardLines sample.color? := by
      rw [Option.mem_def.mp color]
      exact List.mem_cons_self
    simp only [exampleLines, List.mem_append]
    exact Or.inr (Or.inr (Or.inl own))
  · intro path style
    have own :
        "          textStyle: '" ++ ".".intercalate path ++ "'," ∈ headingExample sample := by
      rw [headingExample, Option.mem_def.mp style]
      exact List.mem_cons_of_mem _ (List.mem_cons_of_mem _ List.mem_cons_self)
    simp only [exampleLines, List.mem_append]
    exact Or.inr (Or.inr (Or.inr (Or.inr (Or.inl own))))

end PandaCss

end DesignTokens
