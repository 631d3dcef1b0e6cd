import DesignTokens.Format.Banner
import DesignTokens.Format.Theme
import DesignTokens.Proofs.Json.Margins
import DesignTokens.Proofs.Json.Strings
import DesignTokens.Proofs.Script.BareNames
import DesignTokens.Proofs.Text.FeedLines
import DesignTokens.Proofs.Tree.Slots

/-!
# Lines of generated code

Generated code starts its lines with few characters. A line of a banner starts with a slash or
a blank, and a declaration of a style sheet with a blank unless its font family breaks it. An
entry of an object is indented. Its name is quoted or bare, and a bare name may end with one
line feed, which breaks the entry behind the name. So each line of an entry starts with a blank
or with the colon behind its name.
-/

namespace DesignTokens

namespace Script

/-- A bare name has no line feed, or one at its end. -/
theorem feed_of_isBareName {name : List Char} (bare : isBareName name = true) :
    '\n' ∉ name ∨ ∃ body, name = body ++ ['\n'] ∧ '\n' ∉ body := by
  rcases isBareName_iff.mp bare with own | ⟨body, own, spelled⟩
  · exact Or.inl (feed_not_mem_of_isBare own)
  · exact Or.inr ⟨body, spelled, feed_not_mem_of_isBare own⟩

end Script

namespace Text

variable {c : Char} {margin tail : List Char}

/-- A line behind a margin starts with a blank. -/
theorem noLineStarts_margin (blank : c ≠ ' ') (indented : margin.head? = some ' ')
    (feed : '\n' ∉ margin ++ tail) : NoLineStarts c (margin ++ tail) := by
  apply noLineStarts_of_feed_not_mem feed
  rw [List.head?_append, indented]
  exact fun same => blank (Option.some.inj same).symm

/-- An entry behind a margin is broken at most behind its name. -/
theorem noLineStarts_propertyName (blank : c ≠ ' ') (indented : margin.head? = some ' ')
    (solid : '\n' ∉ margin) (name : String) (feed : '\n' ∉ tail) (other : tail.head? ≠ some c) :
    NoLineStarts c (margin ++ ((Script.propertyName name).toList ++ tail)) := by
  unfold Script.propertyName
  split
  case isTrue bare =>
      rcases Script.feed_of_isBareName bare with inner | ⟨body, spelled, inner⟩
      · apply noLineStarts_margin blank indented
        simp [solid, inner, feed]
      · have broken : margin ++ (name.toList ++ tail) = (margin ++ body) ++ '\n' :: tail := by
          simp [spelled]
        rw [broken]
        apply NoLineStarts.append_feed
        · apply noLineStarts_margin blank indented
          simp [solid, inner]
        · exact noLineStarts_of_feed_not_mem feed other
  case isFalse =>
      apply noLineStarts_margin blank indented
      have quoted := Json.feed_not_mem_stringLiteral true name
      simp [Json.asciiLiteral, solid, quoted, feed]

/-- Blanks that are dropped from the end of a line change nothing in front. -/
theorem toList_withoutTrailingBlank_isPrefix (line : String) :
    (withoutTrailingBlank line).toList <+: line.toList := by
  rw [withoutTrailingBlank, String.toList_ofList, dropEnd, ← List.reverse_suffix,
    List.reverse_reverse]
  exact List.dropWhile_suffix isBlank

end Text

namespace Banner

variable {c : Char}

/-- No line of a block comment starts with anything but a slash or a blank. -/
theorem noLineStarts_block (slash : c ≠ '/') (blank : c ≠ ' ') {title : String}
    (titled : '\n' ∉ title.toList) (editable : Bool) {usage : List String}
    (solid : ∀ line ∈ usage, '\n' ∉ line.toList) :
    Text.NoLineStarts c (Text.joinLines (blockLines title editable usage)).toList := by
  have starred : ∀ line ∈ usage, '\n' ∉ (" * " ++ line).toList ∧
      (" * " ++ line).toList.head? ≠ some c := by
    intro line mem
    simpa [Ne.symm blank] using solid line mem
  have trimmed : ∀ line ∈ usage.map fun line => Text.withoutTrailingBlank (" * " ++ line),
      '\n' ∉ line.toList ∧ line.toList.head? ≠ some c := by
    rw [List.forall_mem_map]
    intro line mem
    have front := Text.toList_withoutTrailingBlank_isPrefix (" * " ++ line)
    constructor
    · exact fun inside => (starred line mem).1 (front.subset inside)
    · intro here
      obtain ⟨rest, spelled⟩ := front
      apply (starred line mem).2
      rw [← spelled, List.head?_append, here]
      rfl
  have each : ∀ line ∈ blockLines title editable usage,
      '\n' ∉ line.toList ∧ line.toList.head? ≠ some c := by
    simp only [blockLines, List.forall_mem_append]
    refine ⟨⟨?_, ?_⟩, by simp [Ne.symm blank]⟩
    · cases editable <;> simp [Ne.symm slash, Ne.symm blank, titled]
    · split
      case isTrue => simp
      case isFalse =>
          rw [List.forall_mem_append]
          refine ⟨by simp [Ne.symm blank], trimmed⟩
  apply Text.noLineStarts_joinLines
  intro line mem
  exact Text.noLineStarts_of_feed_not_mem (each line mem).1 (each line mem).2

end Banner

namespace Css

variable {c : Char}

/-- Every declaration of a style is indented. -/
theorem head?_of_mem_declarations {style : TextStyle} {line : String}
    (mem : line ∈ declarations "  " style) : line.toList.head? = some ' ' := by
  have each : ∀ line ∈ declarations "  " style, line.toList.head? = some ' ' := by
    unfold declarations
    split <;> simp
  exact each line mem

/-- No line of the declarations of a style starts with anything but a blank, if the font family
has no line feeds. -/
theorem noLineStarts_declarations (blank : c ≠ ' ') {style : TextStyle}
    (solid : '\n' ∉ style.family.toList) :
    ∀ line ∈ declarations "  " style, Text.NoLineStarts c line.toList := by
  have number : ∀ x : Number, '\n' ∉ x.cssText.toList := fun x => x.normalize.feed_not_mem_text
  have inside : ∀ line ∈ declarations "  " style, '\n' ∉ line.toList := by
    unfold declarations
    split <;> simp [Number.pixels, fontStack, solid, number]
  intro line mem
  apply Text.noLineStarts_of_feed_not_mem (inside line mem)
  rw [head?_of_mem_declarations mem]
  exact fun same => blank (Option.some.inj same).symm

end Css

namespace Tree

theorem toList_indentation (unit : String) (depth : Int) :
    (indentation unit depth).toList = (List.replicate depth.toNat unit.toList).flatten := by
  rw [indentation, String.toList_join, List.flatMap_def, List.map_replicate]

/-- An indentation of at least one unit of blanks is a margin. -/
theorem indentation_margin {depth : Int} (positive : 0 < depth) :
    (indentation "  " depth).toList.head? = some ' ' ∧
      '\n' ∉ (indentation "  " depth).toList := by
  rw [toList_indentation]
  constructor
  · obtain ⟨n, same⟩ : ∃ n, depth.toNat = n + 1 := ⟨depth.toNat - 1, by omega⟩
    rw [same, List.replicate_succ]
    rfl
  · rw [List.mem_flatten]
    rintro ⟨unit, mem, inside⟩
    rw [List.eq_of_mem_replicate mem] at inside
    exact absurd inside (by decide)

variable {c : Char}

/-- No line of a rendered object starts with anything but a blank or a colon, if its values
have no line feeds. -/
theorem noLineStarts_render (blank : c ≠ ' ') (colon : c ≠ ':') {tree : Tree String}
    (solid : ∀ leaf ∈ tree.leaves, '\n' ∉ leaf.2.toList) {depth : Int} (positive : 0 < depth) :
    ∀ line ∈ tree.render Theme.objectStyle "  " depth, Text.NoLineStarts c line.toList := by
  have behind : (':' :: ([] : List Char)).head? ≠ some c := by simpa using Ne.symm colon
  induction tree generalizing depth with
  | nil => exact fun line mem => absurd mem List.not_mem_nil
  | leaf name value rest ih =>
      rw [leaves_leaf, List.forall_mem_cons] at solid
      obtain ⟨indented, margin⟩ := indentation_margin positive
      intro line mem
      rw [render, List.mem_cons] at mem
      rcases mem with rfl | mem
      · simp only [Theme.objectStyle, String.toList_append, List.append_assoc]
        apply Text.noLineStarts_propertyName blank indented margin name
        · simp [solid.1]
        · simpa using behind
      · exact ih solid.2 positive line mem
  | node name children rest ihc ih =>
      rw [leaves_node, List.forall_mem_append] at solid
      obtain ⟨indented, margin⟩ := indentation_margin positive
      have inner : ∀ leaf ∈ children.leaves, '\n' ∉ leaf.2.toList := by
        intro leaf mem
        exact solid.1 (under name leaf) (List.mem_map_of_mem mem)
      intro line mem
      rw [render, List.cons_append, List.mem_cons, List.mem_append, List.mem_cons] at mem
      rcases mem with rfl | mem | rfl | mem
      · simp only [Theme.objectStyle, String.toList_append]
        apply Text.noLineStarts_propertyName blank indented margin name
        · decide
        · simpa using behind
      · exact ihc inner (by omega) line mem
      · rw [String.toList_append]
        apply Text.noLineStarts_margin blank indented
        have closing : '\n' ∉ "\x7d,".toList := by decide
        rw [List.mem_append, not_or]
        exact ⟨margin, closing⟩
      · exact ih solid.2 positive line mem

end Tree

end DesignTokens
