import DesignTokens.Format.Emotion
import DesignTokens.Format.StyledComponents
import DesignTokens.Proofs.Format.StyleSheetTokens
import DesignTokens.Proofs.Script.Templates
import DesignTokens.Proofs.StoredTokens
import DesignTokens.Proofs.Text.FeedLines

/-!
# The declarations of a text style are read back

The lines of a text style are read as its declarations exactly if its family stands for itself
between the quotes and its numbers are finite. A template around the lines is read back exactly if
the family stands for itself in a template, since everything else in the lines does.
-/

namespace DesignTokens

theorem Number.isFinite_of_isZero {x : Number} (zero : x.isZero = true) : x.isFinite = true := by
  cases x with
  | integer n => rfl
  | real double =>
      cases double with
      | finite negative rank => rfl
      | infinite negative => cases zero
      | nan => cases zero

namespace TextStyle

variable {style : TextStyle}

/-- The declarations of a style, with what its numbers and their units are read as. -/
def declarationsWith (token : Number → String → Css.Token) (style : TextStyle) :
    List Css.Declaration :=
  [⟨"font-family", [.string style.family, .comma, .word "sans-serif"]⟩,
    ⟨"font-size", [token style.size "px"]⟩, ⟨"font-weight", [token style.weight ""]⟩,
    ⟨"line-height", [token style.lineHeight "px"]⟩] ++
  if style.isSpaced then [⟨"letter-spacing", [token style.letterSpacing "px"]⟩] else []

/-- The declarations that a style asks for. -/
def declarations (style : TextStyle) : List Css.Declaration :=
  style.declarationsWith .number

theorem declarationsWith_numberToken_iff :
    style.declarationsWith Css.numberToken = style.declarations ↔
      ∀ x ∈ style.numbers, x.isFinite = true := by
  cases spaced : style.isSpaced with
  | true =>
      simp [declarations, declarationsWith, spaced, numbers, Css.numberToken_eq_number_iff]
  | false =>
      have zero : style.letterSpacing.isZero = true := by simpa [isSpaced] using spaced
      simp [declarations, declarationsWith, spaced, numbers, Css.numberToken_eq_number_iff,
        Number.isFinite_of_isZero zero]

end TextStyle

namespace Css

variable {dialect : Dialect} {style : TextStyle} {indent : String} {lead rest : List Char}

/-- The properties of a text style. -/
def properties : List String :=
  ["font-family", "font-size", "font-weight", "line-height", "letter-spacing"]

theorem word_property : ∀ property ∈ properties, Word property.toList := by
  simp only [properties, List.forall_mem_cons]
  refine ⟨?_, ?_, ?_, ?_, ?_, List.forall_mem_nil _⟩ <;>
    exact ⟨by decide, List.all_eq_true.mp (by decide), fun _ => rfl⟩

section Gives

theorem gives_space : Gives dialect [' '] [] :=
  gives_of_isSpace (List.forall_mem_singleton.mpr rfl)

theorem gives_family (literal : Literal dialect style.family.toList) :
    Gives dialect (fontStack style.family ++ ";").toList
      ([.string style.family, .comma, .word "sans-serif"] ++ [.semicolon]) := by
  have word : Word "sans-serif".toList :=
    ⟨by decide, List.all_eq_true.mp (by decide), fun _ => rfl⟩
  have fallback : Gives dialect ("sans-serif".toList ++ [';']) [.word "sans-serif", .semicolon] :=
    word.gives (by decide) gives_semicolon
  have stack := (gives_string literal).append (gives_comma.append (gives_space.append fallback))
  simpa [fontStack] using stack

theorem gives_cssText {x : Number} (stored : x.normalize = x) {unit : String}
    (named : ∀ c ∈ unit.toList, isNameChar c = true)
    (ends : ∀ rest, Number.NoNumberNext (unit.toList ++ ';' :: rest)) :
    Gives dialect (x.cssText ++ unit ++ ";").toList ([numberToken x unit] ++ [.semicolon]) := by
  have read : Gives dialect (x.text.toList ++ unit.toList ++ [';'])
      [numberToken x unit, .semicolon] := gives_numberToken x named ends
  simpa [Number.cssText_of_stored stored] using read

theorem gives_pixels {x : Number} (stored : x.normalize = x) :
    Gives dialect (x.pixels ++ ";").toList ([numberToken x "px"] ++ [.semicolon]) :=
  gives_cssText stored (List.all_eq_true.mp (by decide))
    fun _ => Number.noNumberNext_cons (by decide)

theorem gives_weight {x : Number} (stored : x.normalize = x) :
    Gives dialect (x.cssText ++ ";").toList ([numberToken x ""] ++ [.semicolon]) := by
  have read : Gives dialect (x.cssText ++ "" ++ ";").toList
      ([numberToken x ""] ++ [.semicolon]) :=
    gives_cssText stored (List.all_eq_true.mp (by decide))
      fun _ => Number.noNumberNext_cons (by decide)
  rwa [String.append_empty] at read

variable (blank : ∀ c ∈ indent.toList, isSpace c = true)

include blank

/-- A property with what stands in front of it and behind it. -/
theorem gives_property {property : String} (word : Word property.toList) :
    Gives dialect (indent ++ property ++ ": ").toList [.word property, .colon] := by
  have named : Gives dialect (property.toList ++ [':'])
      [.word (String.ofList property.toList), .colon] := word.gives (by decide) gives_colon
  have opening := ((gives_of_isSpace blank).append named).append gives_space
  simpa using opening

/-- The line of a declaration. -/
theorem gives_line {property opening value : String} {found : List Token}
    (listed : property ∈ properties) (spelled : opening = property ++ ": ")
    (valued : Gives dialect (value ++ ";").toList (found ++ [.semicolon])) :
    Gives dialect (indent ++ opening ++ value ++ ";").toList
      (Declaration.tokens ⟨property, found⟩) := by
  have line := (gives_property blank (word_property property listed)).append valued
  simpa [Declaration.tokens, spelled] using line

/-- The lines of a style give its declarations, one by one. -/
theorem gives_declarations (stored : style.Stored) (literal : Literal dialect style.family.toList) :
    List.Forall₂ (fun line declaration => Gives dialect line.toList declaration.tokens)
      (declarations indent style) (style.declarationsWith numberToken) := by
  unfold declarations TextStyle.declarationsWith
  refine List.rel_append (.cons ?_ (.cons ?_ (.cons ?_ (.cons ?_ .nil)))) ?_
  · exact gives_line blank (by decide) (by decide) (gives_family literal)
  · exact gives_line blank (by decide) (by decide) (gives_pixels stored.size)
  · exact gives_line blank (by decide) (by decide) (gives_weight stored.weight)
  · exact gives_line blank (by decide) (by decide) (gives_pixels stored.lineHeight)
  · split
    · refine .cons ?_ .nil
      exact gives_line blank (by decide) (by decide) (gives_pixels stored.letterSpacing)
    · exact .nil

end Gives

/-- Lines that give declarations one by one give all of them. -/
theorem gives_joinLines {lines : List String} {found : List Declaration}
    (each : List.Forall₂ (fun line declaration => Gives dialect line.toList declaration.tokens)
      lines found) :
    Gives dialect (Text.joinLines lines).toList (found.flatMap Declaration.tokens) := by
  induction each with
  | nil => exact gives_of_isSpace (List.forall_mem_nil _)
  | @cons line declaration more later own others ih =>
      cases more with
      | nil =>
          cases others
          simpa [Text.joinLines] using own
      | cons next after =>
          have newline : Gives dialect ['\n'] [] :=
            gives_of_isSpace (List.forall_mem_singleton.mpr rfl)
          have whole := (own.append newline).append ih
          rw [Text.toList_joinLines_cons_cons]
          simpa using whole

theorem unmarked_declarationsWith : ∀ declaration ∈ style.declarationsWith numberToken,
    ∀ token ∈ declaration.value, token ≠ .colon ∧ token ≠ .semicolon := by
  have unmarked : ∀ x unit, numberToken x unit ≠ .colon ∧ numberToken x unit ≠ .semicolon := by
    intro x unit
    unfold numberToken
    split <;> exact ⟨nofun, nofun⟩
  unfold TextStyle.declarationsWith
  split <;> simp [unmarked]

/-- The text of a style around its family. -/
theorem toList_joinLines_declarations (indent : String) (style : TextStyle) :
    (Text.joinLines (declarations indent style)).toList =
      (indent ++ "font-family" ++ ": ").toList ++ '\'' :: (style.family.toList ++
        '\'' :: (", sans-serif;\n".toList ++
          (Text.joinLines (declarations indent style).tail).toList)) := by
  obtain ⟨second, others, listed⟩ : ∃ second others, declarations indent style =
      (indent ++ "font-family: " ++ fontStack style.family ++ ";") :: second :: others :=
    ⟨_, _, rfl⟩
  rw [listed, Text.toList_joinLines_cons_cons, List.tail_cons]
  simp [fontStack]

section Read

variable (blank : ∀ c ∈ indent.toList, isSpace c = true) (vacant : ∀ c ∈ lead, isSpace c = true)

include blank vacant

/-- A style whose family stands for itself is read as its declarations, with words for the numbers
that are not finite. -/
theorem readDeclarations_of_literal (stored : style.Stored)
    (literal : Literal dialect style.family.toList) (ends : EndsBlock rest) :
    readDeclarations dialect
        (lead ++ (Text.joinLines (declarations indent style)).toList ++ rest) =
      some (style.declarationsWith numberToken, rest.dropWhile isSpace) := by
  have lines := gives_joinLines (gives_declarations blank stored literal)
  exact readDeclarations_of_gives ((gives_of_isSpace vacant).append lines)
    unmarked_declarationsWith ends

/-- A style that is read as its declarations has a family that stands for itself. -/
theorem literal_of_readDeclarations {left : List Char}
    (h : readDeclarations dialect
        (lead ++ (Text.joinLines (declarations indent style)).toList ++ rest) =
      some (style.declarations, left)) : Literal dialect style.family.toList := by
  have opening : Gives dialect (lead ++ (indent ++ "font-family" ++ ": ").toList)
      [.word "font-family", .colon] :=
    (gives_of_isSpace vacant).append (gives_property blank (word_property _ (by decide)))
  obtain ⟨tail, blocked, split⟩ : ∃ tail, readString dialect 0 tail = none ∧
      lead ++ (Text.joinLines (declarations indent style)).toList ++ rest =
        (lead ++ (indent ++ "font-family" ++ ": ").toList) ++
          '\'' :: (style.family.toList ++ '\'' :: tail) := by
    refine ⟨", sans-serif;\n".toList ++
      ((Text.joinLines (declarations indent style).tail).toList ++ rest), ?_, ?_⟩
    -- Behind the family only the end of its line comes.
    · cases dialect <;> rfl
    · rw [toList_joinLines_declarations]
      generalize ", sans-serif;\n".toList = fallback
      simp only [List.append_assoc, List.cons_append]
  rw [split, readDeclarations, opening] at h
  obtain ⟨_, mapped, h⟩ := Option.bind_eq_some_iff.mp h
  obtain ⟨⟨found, _⟩, read, rfl⟩ := Option.map_eq_some_iff.mp mapped
  obtain ⟨value, _, more, quoted, rfl⟩ := exists_readString_of_readTokens read
  obtain ⟨_, made, same⟩ := Option.map_eq_some_iff.mp h
  cases same
  have begun : readFrom (some ⟨"font-family", [.string (String.ofList value)]⟩) more =
      some style.declarations := made
  obtain ⟨_, _, listed, front⟩ := readFrom_begun begun
  cases listed
  have named : value = style.family.toList := by
    obtain ⟨_, same⟩ := front
    rw [← Token.string.inj (List.cons.inj same).1, String.toList_ofList]
  rw [named] at quoted
  exact literal_of_readString blocked quoted

/-- A style is read as its declarations exactly if its family stands for itself and its numbers are
finite. -/
theorem readDeclarations_iff (stored : style.Stored) (ends : EndsBlock rest) :
    readDeclarations dialect
        (lead ++ (Text.joinLines (declarations indent style)).toList ++ rest) =
      some (style.declarations, rest.dropWhile isSpace) ↔
    Literal dialect style.family.toList ∧ ∀ x ∈ style.numbers, x.isFinite = true := by
  rw [← TextStyle.declarationsWith_numberToken_iff]
  constructor
  · intro h
    have literal := literal_of_readDeclarations blank vacant h
    rw [readDeclarations_of_literal blank vacant stored literal ends, Option.some.injEq,
      Prod.mk.injEq] at h
    exact ⟨literal, h.1⟩
  · rintro ⟨literal, same⟩
    rw [readDeclarations_of_literal blank vacant stored literal ends, same]

end Read

end Css

namespace Script

variable {style : TextStyle} {indent : String}

theorem isPlain_of_mem_cssText {x : Number} : ∀ c ∈ x.cssText.toList, isPlain c = true := by
  intro c mem
  rw [isPlain_iff]
  exact Css.notMem_of_all (by decide) (x.normalize.numberChars_text c mem)

theorem isPlain_of_mem_pixels {x : Number} : ∀ c ∈ x.pixels.toList, isPlain c = true := by
  rw [Number.pixels, String.toList_append, List.forall_mem_append]
  exact ⟨isPlain_of_mem_cssText, List.all_eq_true.mp (by decide)⟩

variable (quiet : ∀ c ∈ indent.toList, isPlain c = true)

include quiet

theorem isPlain_of_mem_line {opening value : String} (plain : opening.toList.all isPlain = true)
    (own : ∀ c ∈ value.toList, isPlain c = true) :
    ∀ c ∈ (indent ++ opening ++ value ++ ";").toList, isPlain c = true := by
  simp only [String.toList_append, List.forall_mem_append]
  exact ⟨⟨⟨quiet, List.all_eq_true.mp plain⟩, own⟩, List.all_eq_true.mp (by decide)⟩

/-- The lines behind that of the family have plain characters alone. -/
theorem isPlain_of_mem_numberLines :
    ∀ line ∈ (Css.declarations indent style).tail, ∀ c ∈ line.toList, isPlain c = true := by
  simp only [Css.declarations, List.cons_append, List.tail_cons, List.nil_append,
    List.forall_mem_cons]
  refine ⟨?_, ?_, ?_, ?_⟩
  · exact isPlain_of_mem_line quiet (by decide) isPlain_of_mem_pixels
  · exact isPlain_of_mem_line quiet (by decide) isPlain_of_mem_cssText
  · exact isPlain_of_mem_line quiet (by decide) isPlain_of_mem_pixels
  · split
    · rw [List.forall_mem_singleton]
      exact isPlain_of_mem_line quiet (by decide) isPlain_of_mem_pixels
    · exact List.forall_mem_nil _

/-- A style between plain texts stands for itself in a template exactly if its family does. -/
theorem templateLiteral_declarations_iff {before after : List Char}
    (start : ∀ c ∈ before, isPlain c = true) (close : ∀ c ∈ after, isPlain c = true) :
    TemplateLiteral (before ++ (Text.joinLines (Css.declarations indent style)).toList ++ after) ↔
      TemplateLiteral style.family.toList := by
  have numbers : ∀ c ∈ (Text.joinLines (Css.declarations indent style).tail).toList,
      isPlain c = true :=
    @Text.forall_mem_intercalate (fun c => isPlain c = true) '\n' (by decide) _
      (isPlain_of_mem_numberLines quiet)
  have split : before ++ (Text.joinLines (Css.declarations indent style)).toList ++ after =
      (before ++ ((indent ++ "font-family" ++ ": ").toList ++ ['\''])) ++ style.family.toList ++
        ('\'' :: ", sans-serif;\n".toList ++
          (Text.joinLines (Css.declarations indent style).tail).toList ++ after) := by
    rw [Css.toList_joinLines_declarations]
    generalize ", sans-serif;\n".toList = fallback
    simp only [List.append_assoc, List.cons_append, List.nil_append]
  rw [split]
  apply templateLiteral_between_iff
  · simp only [String.toList_append, List.forall_mem_append]
    exact ⟨start, ⟨⟨quiet, List.all_eq_true.mp (by decide)⟩, List.all_eq_true.mp (by decide)⟩,
      List.all_eq_true.mp (by decide)⟩
  · simp only [List.forall_mem_append]
    exact ⟨⟨List.all_eq_true.mp (by decide), numbers⟩, close⟩
  · exact fun same => absurd (Option.some.inj same) (by decide)

/-- The lines of a style in a tagged template are read back exactly if its family stands for itself
in it. -/
theorem readStyleTemplate?_iff {close : String} (plain : ∀ c ∈ close.toList, isPlain c = true)
    (rest : List Char) :
    readStyleTemplate? ("css\x60".toList ++
        (("\n" ++ Text.joinLines (Css.declarations indent style) ++ close).toList ++
          templateMark :: rest)) =
      some (("\n" ++ Text.joinLines (Css.declarations indent style) ++ close).toList, rest) ↔
    TemplateLiteral style.family.toList := by
  have opened : ∀ inside, readStyleTemplate? ("css\x60".toList ++ inside) = readTemplate 0 inside :=
    fun _ => rfl
  rw [opened, readTemplate_eq_self_iff, String.toList_append, String.toList_append]
  exact templateLiteral_declarations_iff quiet (List.all_eq_true.mp (by decide)) plain

end Script

/-- A tagged template of the theme is its lines between its marks. -/
theorem Emotion.toList_template (style : TextStyle) :
    (template style).toList = "css\x60".toList ++
      (("\n" ++ Text.joinLines (Css.declarations "        " style) ++ "\n      ").toList ++
        [Script.templateMark]) := by
  have indent : templateIndent ++ "  " = "        " := by decide
  obtain ⟨first, others, listed⟩ : ∃ first others,
      Css.declarations "        " style = first :: others := ⟨_, _, rfl⟩
  rw [template, indent, listed, List.singleton_append,
    Text.toList_joinLines_concat (List.cons_ne_nil _ _), Text.toList_joinLines_cons_cons]
  simp [templateIndent, Script.templateMark]

/-- Behind the name of its constant a mixin is its lines between the marks of a template. -/
theorem StyledComponents.drop_mixin (entry : StyleEntry) :
    (mixin entry).toList.drop ("export const " ++ mixinOf entry ++ " = ").length =
      "css\x60".toList ++
        (("\n" ++ Text.joinLines (Css.declarations "  " entry.style) ++ "\n").toList ++
          Script.templateMark :: ";\n".toList) := by
  have split : (mixin entry).toList = ("export const " ++ mixinOf entry ++ " = ").toList ++
      ("css\x60".toList ++
        (("\n" ++ Text.joinLines (Css.declarations "  " entry.style) ++ "\n").toList ++
          Script.templateMark :: ";\n".toList)) := by
    unfold mixin
    simp [Script.templateMark]
  rw [split, ← String.length_toList, List.drop_left]

/-- The lines of a text style that has passed its check, indented and in front of the end of a
block, are read as the declarations that the style asks for exactly if the family stands for itself
between quotes and all numbers are finite: the string of the family and its fallback, the size, the
weight, the line height, and the letter spacing if letters are spaced, and nothing else, up to the
end of the block. The templates around the lines stand for them exactly if the family stands for
itself in a template. -/
theorem declarations_read_back_iff {record : Entries Json} {style : TextStyle}
    (given : TextStyle.check record = .ok style) :
    (∀ (dialect : Css.Dialect) (indent : String) (lead rest : List Char),
      (∀ c ∈ indent.toList, Css.isSpace c = true) → (∀ c ∈ lead, Css.isSpace c = true) →
      Css.EndsBlock rest →
      (Css.readDeclarations dialect
          (lead ++ (Text.joinLines (Css.declarations indent style)).toList ++ rest) =
        some (style.declarations, rest.dropWhile Css.isSpace) ↔
      Css.Literal dialect style.family.toList ∧ ∀ x ∈ style.numbers, x.isFinite = true)) ∧
    (Script.readStyleTemplate? (Emotion.template style).toList =
        some (("\n" ++ Text.joinLines (Css.declarations "        " style) ++
          "\n      ").toList, []) ↔
      Script.TemplateLiteral style.family.toList) ∧
    ∀ entry : StyleEntry, entry.style = style →
      (Script.readStyleTemplate? ((StyledComponents.mixin entry).toList.drop
          ("export const " ++ StyledComponents.mixinOf entry ++ " = ").length) =
        some (("\n" ++ Text.joinLines (Css.declarations "  " style) ++ "\n").toList,
          ";\n".toList) ↔
      Script.TemplateLiteral style.family.toList) := by
  have stored := TextStyle.stored_of_check given
  refine ⟨?lines, ?template, ?mixin⟩
  case lines =>
    intro dialect indent lead rest blank vacant ends
    exact Css.readDeclarations_iff blank vacant stored ends
  case template =>
    rw [Emotion.toList_template]
    exact Script.readStyleTemplate?_iff (List.all_eq_true.mp (by decide))
      (List.all_eq_true.mp (by decide)) []
  case mixin =>
    rintro entry rfl
    rw [StyledComponents.drop_mixin]
    exact Script.readStyleTemplate?_iff (List.all_eq_true.mp (by decide))
      (List.all_eq_true.mp (by decide)) _

/-- A record of a style with spaced letters. -/
def trackedRecord : Entries Json := [
  ("fontFamily", .string "Noto Sans KR"), ("fontSize", .number (.integer 16)),
  ("fontWeight", .number (.integer 400)), ("lineHeight", .number (.integer 24)),
  ("letterSpacing", .number (.integer (-1)))]

/-- The style that the record gives. -/
def trackedStyle : TextStyle :=
  ⟨"Noto Sans KR", .integer 16, .integer 400, .integer 24, .integer (-1)⟩

/-- An entry of the style. -/
def trackedEntry : StyleEntry :=
  ⟨"mobile", "kr", "title", trackedStyle⟩

theorem declarations_read_back_trackedStyle :
    TextStyle.check trackedRecord = .ok trackedStyle ∧
    Css.readDeclarations .sass
        ("\n".toList ++ (Text.joinLines (Css.declarations "  " trackedStyle)).toList ++
          "\n\x7d\n".toList) =
      some ([⟨"font-family", [.string "Noto Sans KR", .comma, .word "sans-serif"]⟩,
        ⟨"font-size", [.number (.integer 16) "px"]⟩, ⟨"font-weight", [.number (.integer 400) ""]⟩,
        ⟨"line-height", [.number (.integer 24) "px"]⟩,
        ⟨"letter-spacing", [.number (.integer (-1)) "px"]⟩], "\x7d\n".toList) ∧
    Script.readStyleTemplate? (Emotion.template trackedStyle).toList =
      some (("\n" ++ Text.joinLines (Css.declarations "        " trackedStyle) ++
        "\n      ").toList, []) ∧
    Script.readStyleTemplate? ((StyledComponents.mixin trackedEntry).toList.drop
        "export const typoMobileKrTitle = ".length) =
      some (("\n" ++ Text.joinLines (Css.declarations "  " trackedStyle) ++ "\n").toList,
        ";\n".toList) := by
  have given : TextStyle.check trackedRecord = .ok trackedStyle := by decide
  have template : Script.TemplateLiteral trackedStyle.family.toList := by
    refine ⟨by decide, by decide, by decide, ?_⟩
    exact Text.mark_not_infix_of_notMem (Or.inl (by decide))
  have literal : Css.Literal .sass trackedStyle.family.toList := by
    refine ⟨List.all_eq_true.mp (by decide), fun _ => ?_⟩
    exact Text.mark_not_infix_of_notMem (Or.inl (by decide))
  have finite : ∀ x ∈ trackedStyle.numbers, x.isFinite = true := List.all_eq_true.mp (by decide)
  have ends : Css.EndsBlock "\n\x7d\n".toList := by
    rintro c same
    cases same
    rfl
  obtain ⟨lines, emotion, mixin⟩ := declarations_read_back_iff given
  refine ⟨given, ?_, emotion.mpr template, ?_⟩
  · exact (lines .sass "  " "\n".toList "\n\x7d\n".toList (List.all_eq_true.mp (by decide))
      (List.all_eq_true.mp (by decide)) ends).mpr ⟨literal, finite⟩
  · exact (mixin trackedEntry rfl).mpr template

/-- A record of a style whose family has a quote. -/
def quotedRecord : Entries Json := [
  ("fontFamily", .string "O'Hara"), ("fontSize", .number (.integer 16)),
  ("fontWeight", .number (.integer 400)), ("lineHeight", .number (.integer 24))]

/-- The style that the record gives. -/
def quotedStyle : TextStyle :=
  ⟨"O'Hara", .integer 16, .integer 400, .integer 24, .integer 0⟩

/-- The quote ends the string of the family early. -/
theorem declarations_quotedStyle :
    TextStyle.check quotedRecord = .ok quotedStyle ∧
    Text.joinLines (Css.declarations "  " quotedStyle) =
      "  font-family: 'O'Hara', sans-serif;\n  font-size: 16px;\n  font-weight: 400;\n" ++
        "  line-height: 24px;" ∧
    Css.readDeclarations .css
        ((Text.joinLines (Css.declarations "  " quotedStyle)).toList ++ "\n\x7d\n".toList) ≠
      some (quotedStyle.declarations, "\x7d\n".toList) := by
  decide +kernel

end DesignTokens
