import DesignTokens.Format.StyledComponents
import DesignTokens.Proofs.Format.GeneratedLines
import DesignTokens.Proofs.Format.StyleConstants
import DesignTokens.Proofs.Script.Declarations
import DesignTokens.Proofs.Script.Identifiers
import Mathlib.Algebra.Order.BigOperators.Group.List

/-!
# Names of mixins

The name of a mixin is a fixed word and the capital forms of the words of the device, the locale
and the style, whichever marks stood between them. So it is always an identifier, but it does
not tell where the device ends, the locale, or a word. The styles are told apart by their names
wherever devices and locales are small words and no two styles of a locale have the same part.

## Implementation notes

The declared names are read from the text of the file. A font family stands there as it is, so
one that holds line feeds could itself spell a declaration.

-/

namespace DesignTokens.StyledComponents

/-- The names of the mixins that a text declares. -/
def declaredMixins (text : String) : List String :=
  Script.declared "export const " " = css`" text

/-- What stands as a mixin in the declarations of a style, where only its font family can spell
one. -/
def strayMixins (style : TextStyle) : List String :=
  declaredMixins (Text.joinLines (Css.declarations "  " style))

section Declared

theorem declaredMixins_append_feed (first second : String) :
    declaredMixins (first ++ "\n" ++ second) = declaredMixins first ++ declaredMixins second :=
  Script.declared_append_feed _ _ first second

theorem declaredMixins_line {line : String} (other : line.toList.head? ≠ some 'e')
    (feed : '\n' ∉ line.toList) : declaredMixins line = [] :=
  Script.declared_line_eq_nil rfl other feed

theorem strayMixins_eq_nil {style : TextStyle} (solid : '\n' ∉ style.family.toList) :
    strayMixins style = [] :=
  Script.declared_eq_nil rfl
    (Text.noLineStarts_joinLines (Css.noLineStarts_declarations (by decide) solid))

/-- A mixin declares its name and what its declarations spell. -/
theorem declaredMixins_mixin (entry : StyleEntry) :
    declaredMixins (mixin entry) = mixinOf entry :: strayMixins entry.style := by
  have split : mixin entry =
      "export const " ++ mixinOf entry ++ " = css`" ++ "\n" ++
        Text.joinLines (Css.declarations "  " entry.style) ++ "\n" ++ "`;" ++ "\n" := by
    unfold mixin
    apply String.toList_injective
    simp
  have named : '\n' ∉ "export const ".toList ++ (mixinOf entry).toList ++ " = css`".toList := by
    have own : '\n' ∉ (mixinOf entry).toList := Script.feed_not_mem_identifier _
    simp [own]
  rw [split]
  exact Script.declared_block rfl named (by decide) (by simp) _

theorem feed_not_mem_usage {name : String} (solid : '\n' ∉ name.toList) :
    ∀ line ∈ usage name, '\n' ∉ line.toList := by
  simp [usage, solid]

/-- The file declares a mixin for each style, in order, and besides these only what the
declarations of the styles spell. -/
theorem declaredMixins_mixinsFile (model : Model) (first : StyleEntry) :
    declaredMixins (mixinsFile model first) =
      model.styles.flatMap fun entry => mixinOf entry :: strayMixins entry.style := by
  have split : mixinsFile model first =
      Text.joinLines (Banner.blockLines "Typography Mixins for Styled-Components" false
        (usage (mixinOf first))) ++ "\n" ++ ("" ++ "\n" ++
          ("import \x7b css \x7d from 'styled-components';" ++ "\n" ++
            ("" ++ "\n" ++ Text.joinLines (model.styles.map mixin)))) := by
    apply String.toList_injective
    simp [mixinsFile, Banner.block]
  have usages : ∀ line ∈ usage (mixinOf first), '\n' ∉ line.toList :=
    feed_not_mem_usage (Script.feed_not_mem_identifier _)
  have banner : declaredMixins (Text.joinLines (Banner.blockLines
      "Typography Mixins for Styled-Components" false (usage (mixinOf first)))) = [] :=
    Script.declared_eq_nil rfl
      (Banner.noLineStarts_block (by decide) (by decide) (by simp) false usages)
  have vacant : declaredMixins "" = [] := declaredMixins_line (by simp) (by simp)
  have imports : declaredMixins "import \x7b css \x7d from 'styled-components';" = [] :=
    declaredMixins_line (by simp) (by simp)
  have mixins : declaredMixins (Text.joinLines (model.styles.map mixin)) =
      model.styles.flatMap fun entry => mixinOf entry :: strayMixins entry.style := by
    rw [declaredMixins, Script.declared_joinLines_map rfl]
    exact List.flatMap_congr fun entry _ => declaredMixins_mixin entry
  simp only [split, declaredMixins_append_feed, banner, vacant, imports, mixins, List.nil_append]

/-- The file declares the mixins of the styles alone exactly if no style spells another one. -/
theorem declaredMixins_mixinsFile_eq_map_iff (model : Model) (first : StyleEntry) :
    declaredMixins (mixinsFile model first) = model.styles.map mixinOf ↔
      ∀ entry ∈ model.styles, strayMixins entry.style = [] := by
  rw [declaredMixins_mixinsFile]
  constructor
  · intro same
    have counted := congrArg List.length same
    rw [List.length_flatMap, List.length_map] at counted
    simpa [List.sum_map_add, List.sum_eq_zero_iff] using counted
  · intro none
    rw [List.map_eq_flatMap]
    refine List.flatMap_congr fun entry mem => ?_
    rw [none entry mem]

end Declared

section Names

/-- What the name of a mixin keeps of a name: the capital forms of its words. -/
def mixinPart (name : String) : List Char :=
  (Key.pascal name).filter Script.isIdentifierPart

/-- The capital forms that tell mixins apart. -/
def mixinLetters (entry : StyleEntry) : List Char :=
  mixinPart entry.device ++ (mixinPart entry.locale ++ mixinPart entry.name)

theorem plain_typo : ∀ c ∈ "typo".toList, Key.isPlain c = true :=
  List.all_eq_true.mp (by decide)

/-- Behind the fixed word, which is small and unbroken, a name stands in its capital forms. -/
theorem toList_camel_typo (name : String) :
    (Key.camel ("typo" ++ "-" ++ name)).toList = "typo".toList ++ Key.pascal name := by
  have unbroken : Key.words Key.separatesWords "typo".toList = ["typo".toList] := by
    apply Key.words_of_no_separator
    · decide
    · exact fun c mem => Key.separatesWords_of_isPlain (plain_typo c mem)
  have first : Text.lowerChar 't' = ['t'] := Key.lowerChar_of_ascii 't' (by decide)
  have small : Text.lowerFirst "typo".toList = "typo".toList := by
    have spelled : "typo".toList = ['t', 'y', 'p', 'o'] := by decide
    rw [spelled, Text.lowerFirst, first]
    rfl
  rw [Key.toList_camel_append_hyphen unbroken, small]

theorem toList_mixinOf (entry : StyleEntry) :
    (mixinOf entry).toList = "typo".toList ++ mixinLetters entry := by
  have joined : "typo-" ++ entry.device ++ "-" ++ entry.locale ++ "-" ++ entry.name =
      "typo" ++ "-" ++ (entry.device ++ "-" ++ entry.locale ++ "-" ++ entry.name) := by
    apply String.toList_injective
    simp
  have kept : "typo".toList.filter Script.isIdentifierPart = "typo".toList :=
    Script.filter_isIdentifierPart_of_isPlain plain_typo
  rw [mixinOf, mixinName, Script.toList_identifier, joined, toList_camel_typo,
    Key.pascal_append_hyphen, Key.pascal_append_hyphen, List.filter_append, kept,
    List.filter_append, List.filter_append, List.append_assoc]
  rfl

/-- The name of a mixin is an identifier, which starts with the fixed word. -/
theorem isIdentifier_mixinOf (entry : StyleEntry) :
    "typo".toList <+: (mixinOf entry).toList ∧ Script.IsIdentifier (mixinOf entry) := by
  constructor
  · exact ⟨mixinLetters entry, (toList_mixinOf entry).symm⟩
  · have front : (mixinOf entry).toList.head? = some 't' := by
      rw [toList_mixinOf, List.head?_append]
      rfl
    have starts : (mixinOf entry).toList.head?.any Text.startsIdentifier = true := by
      rw [front, Option.any_some]
      exact Script.startsIdentifier_of_isLower rfl
    exact (Script.isIdentifier_identifier_iff _).mpr starts

variable {first second : StyleEntry}

/-- Mixins have the same name exactly if their capital forms are the same. -/
theorem mixinOf_eq_iff :
    mixinOf first = mixinOf second ↔ mixinLetters first = mixinLetters second := by
  rw [← String.toList_inj, toList_mixinOf, toList_mixinOf, List.append_cancel_left_eq]

/-- The capital form of a small word is its own first letter in upper case. -/
theorem mixinPart_of_smallWord {word : String} (small : Key.SmallWord word) :
    mixinPart word = Text.upperFirst word.toList := by
  rw [mixinPart, Key.pascal_of_smallWord small]
  exact Script.filter_isIdentifierPart_of_isPlain small.plain_upperFirst

/-- Separable styles are told apart by the names of their mixins up to their own parts. -/
theorem mixinOf_eq_iff_of_separable (own : first.Separable mixinPart)
    (other : second.Separable mixinPart) :
    mixinOf first = mixinOf second ↔
      first.device = second.device ∧ first.locale = second.locale ∧
        mixinPart first.name = mixinPart second.name := by
  rw [mixinOf_eq_iff, mixinLetters, mixinLetters, mixinPart_of_smallWord own.device,
    mixinPart_of_smallWord own.locale, mixinPart_of_smallWord other.device,
    mixinPart_of_smallWord other.locale]
  constructor
  · intro same
    have devices := own.device.upperFirst_append_inj other.device own.startsOutside_locale
      other.startsOutside_locale same
    exact ⟨devices.1, own.locale_inj other devices.2⟩
  · rintro ⟨device, locale, name⟩
    rw [device, locale, name]

end Names

/-- The mixins of a model are well declared in a text: it declares a mixin for each style and no
other one, under an identifier that starts with the fixed word, and styles of one name of a mixin
have the same device, locale and name. -/
structure MixinsDeclared (model : Model) (text : String) : Prop where
  listed : declaredMixins text = model.styles.map mixinOf
  identifiers : ∀ name ∈ declaredMixins text,
    "typo".toList <+: name.toList ∧ Script.IsIdentifier name
  apart : ∀ first ∈ model.styles, ∀ second ∈ model.styles, mixinOf first = mixinOf second →
    first.SameKey second

section MixinsDeclared

variable {model : Model} {first : StyleEntry}

theorem mixinsDeclared_iff :
    MixinsDeclared model (mixinsFile model first) ↔
      (∀ entry ∈ model.styles, strayMixins entry.style = []) ∧
        ∀ first ∈ model.styles, ∀ second ∈ model.styles,
          mixinLetters first = mixinLetters second → first.SameKey second := by
  rw [← declaredMixins_mixinsFile_eq_map_iff model first]
  simp only [← mixinOf_eq_iff]
  constructor
  · intro declared
    exact ⟨declared.listed, declared.apart⟩
  · rintro ⟨listed, apart⟩
    refine ⟨listed, ?_, apart⟩
    rw [listed, List.forall_mem_map]
    exact fun entry _ => isIdentifier_mixinOf entry

/-- Mixins of separable styles are well declared exactly if styles of one locale and one part
have one name. -/
theorem mixinsDeclared_iff_of_separable
    (solid : ∀ entry ∈ model.styles, '\n' ∉ entry.style.family.toList)
    (separable : ∀ entry ∈ model.styles, entry.Separable mixinPart) :
    MixinsDeclared model (mixinsFile model first) ↔
      ∀ first ∈ model.styles, ∀ second ∈ model.styles,
        first.device = second.device → first.locale = second.locale →
          mixinPart first.name = mixinPart second.name → first.name = second.name := by
  have none : ∀ entry ∈ model.styles, strayMixins entry.style = [] :=
    fun entry mem => strayMixins_eq_nil (solid entry mem)
  rw [mixinsDeclared_iff, and_iff_right none]
  refine forall₂_congr fun first mem => forall₂_congr fun second other => ?_
  rw [← mixinOf_eq_iff, mixinOf_eq_iff_of_separable (separable first mem) (separable second other)]
  constructor
  · exact fun same device locale part => (same ⟨device, locale, part⟩).2.2
  · exact fun same ⟨device, locale, part⟩ => ⟨device, locale, same device locale part⟩

end MixinsDeclared

/-- Every mixin has an identifier that starts with the fixed word. Mixins are well declared
exactly if no style spells another mixin and the capital forms tell the styles apart. For
separable styles without broken families this is so exactly if styles of one locale are told
apart by their own parts. -/
theorem mixins_declared_iff (model : Model) (first : StyleEntry) :
    (∀ entry : StyleEntry,
      "typo".toList <+: (mixinOf entry).toList ∧ Script.IsIdentifier (mixinOf entry)) ∧
    (MixinsDeclared model (mixinsFile model first) ↔
      (∀ entry ∈ model.styles, strayMixins entry.style = []) ∧
        ∀ first ∈ model.styles, ∀ second ∈ model.styles,
          mixinLetters first = mixinLetters second → first.SameKey second) ∧
    ((∀ entry ∈ model.styles, '\n' ∉ entry.style.family.toList) →
      (∀ entry ∈ model.styles, entry.Separable mixinPart) →
        (MixinsDeclared model (mixinsFile model first) ↔
          ∀ first ∈ model.styles, ∀ second ∈ model.styles,
            first.device = second.device → first.locale = second.locale →
              mixinPart first.name = mixinPart second.name → first.name = second.name)) :=
  ⟨isIdentifier_mixinOf, mixinsDeclared_iff, mixinsDeclared_iff_of_separable⟩

theorem mixins_ordinaryStyles :
    ∃ first rest, ordinaryStyles.styles = first :: rest ∧
      (∀ entry ∈ ordinaryStyles.styles, entry.Separable mixinPart) ∧
      MixinsDeclared ordinaryStyles (mixinsFile ordinaryStyles first) := by
  have solid : ∀ entry ∈ ordinaryStyles.styles, '\n' ∉ entry.style.family.toList := by
    decide +kernel
  have separable : ∀ entry ∈ ordinaryStyles.styles, entry.Separable mixinPart := by
    decide +kernel
  refine ⟨_, _, rfl, separable, ?_⟩
  refine ((mixins_declared_iff ordinaryStyles _).2.2 solid separable).mpr ?_
  decide +kernel

/-- Two styles of two locales whose mixins have one name. -/
def shiftedStyles : Model where
  colors := .nil
  typography := [("mobile", [
    ("kr", [("title-bold", ⟨"Arial", .integer 16, .integer 700, .integer 24, .integer 0⟩)]),
    ("kr-title", [("bold", ⟨"Arial", .integer 32, .integer 700, .integer 40, .integer 0⟩)])])]
  gradients := none

/-- One name is declared twice. -/
theorem mixins_shiftedStyles :
    ∃ first rest, shiftedStyles.styles = first :: rest ∧
      declaredMixins (mixinsFile shiftedStyles first) =
        ["typoMobileKrTitleBold", "typoMobileKrTitleBold"] ∧
      ¬ MixinsDeclared shiftedStyles (mixinsFile shiftedStyles first) := by
  have arial : ∀ entry ∈ shiftedStyles.styles, '\n' ∉ entry.style.family.toList := by
    decide +kernel
  have solid : ∀ entry ∈ shiftedStyles.styles, strayMixins entry.style = [] :=
    fun entry mem => strayMixins_eq_nil (arial entry mem)
  refine ⟨_, _, rfl, ?_, ?_⟩
  · rw [(declaredMixins_mixinsFile_eq_map_iff ..).mpr solid]
    decide +kernel
  · intro declared
    have apart := (mixinsDeclared_iff.mp declared).2
    revert apart
    decide +kernel

end DesignTokens.StyledComponents
