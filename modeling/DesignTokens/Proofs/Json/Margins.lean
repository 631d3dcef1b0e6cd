import DesignTokens.Proofs.Json.Parts
import DesignTokens.Proofs.Json.Strings
import DesignTokens.Proofs.Number.Characters

/-!
# Margins

A document is written with a margin by putting the margin behind every line feed of the document
that is written without one. No line feed stands within a string or a number, so the margin
changes no value.
-/

namespace DesignTokens

namespace Json

theorem feed_not_mem_numberLiteral (x : Number) : '\n' ∉ numberLiteral x := by
  unfold numberLiteral
  split
  case h_4 => exact x.feed_not_mem_text
  all_goals decide

/-- A text with a margin behind each of its line feeds. -/
def withMargin (margin text : List Char) : List Char :=
  text.flatMap fun c => if c = '\n' then '\n' :: margin else [c]

variable {margin : List Char}

theorem withMargin_append (first second : List Char) :
    withMargin margin (first ++ second) = withMargin margin first ++ withMargin margin second :=
  List.flatMap_append

/-- A text on one line has no place for a margin. -/
theorem withMargin_of_feed_not_mem {text : List Char} (feed : '\n' ∉ text) :
    withMargin margin text = text := by
  induction text with
  | nil => rfl
  | cons c rest ih =>
      rw [List.mem_cons, not_or] at feed
      have own : (if c = '\n' then '\n' :: margin else [c]) = [c] := if_neg (Ne.symm feed.1)
      rw [withMargin, List.flatMap_cons, own, ← withMargin, ih feed.2]
      rfl

theorem withMargin_newLine (unit depth : Nat) :
    withMargin margin (Layout.newLine ⟨[], unit⟩ depth) = Layout.newLine ⟨margin, unit⟩ depth := by
  have blanks : withMargin margin (List.replicate (unit * depth) ' ') =
      List.replicate (unit * depth) ' ' :=
    withMargin_of_feed_not_mem fun mem => absurd (List.eq_of_mem_replicate mem) (by decide)
  have feed : withMargin margin ['\n'] = '\n' :: margin := List.append_nil _
  exact (withMargin_append ['\n'] _).trans (congrArg₂ (· ++ ·) feed blanks)

/-- Putting a margin behind each line feed of a document writes the document with the margin. -/
theorem withMargin_write (margin : List Char) (unit depth : Nat) (value : Json) :
    withMargin margin (write ⟨[], unit⟩ depth value) = write ⟨margin, unit⟩ depth value := by
  have mark : ∀ c : Char, c ≠ '\n' → ∀ text, withMargin margin (c :: text) =
      c :: withMargin margin text := by
    intro c other text
    have own : withMargin margin [c] = [c] :=
      withMargin_of_feed_not_mem fun mem => other (List.mem_singleton.mp mem).symm
    exact (withMargin_append [c] text).trans (by rw [own]; rfl)
  have string : ∀ text, withMargin margin (stringLiteral false text) = stringLiteral false text :=
    fun text => withMargin_of_feed_not_mem (feed_not_mem_stringLiteral false text)
  induction value using partInduction generalizing depth with
  | null => rfl
  | bool b => cases b <;> rfl
  | number x => exact withMargin_of_feed_not_mem (feed_not_mem_numberLiteral x)
  | string s => exact string s
  | array items ih =>
      have others : ∀ list : List Json, (∀ item ∈ list, item ∈ items) → ∀ depth,
          withMargin margin (writeItems ⟨[], unit⟩ depth list) =
            writeItems ⟨margin, unit⟩ depth list := by
        intro list inside depth
        induction list with
        | nil => rfl
        | cons item rest tail =>
            simp only [writeItems, List.cons_append, mark ',' (by decide), withMargin_append,
              withMargin_newLine, ih item (inside item List.mem_cons_self),
              tail fun other mem => inside other (List.mem_cons_of_mem _ mem)]
      cases items with
      | nil => rfl
      | cons item rest =>
          simp only [write, List.cons_append, mark '[' (by decide), withMargin_append,
            withMargin_newLine, ih item List.mem_cons_self,
            others rest fun other mem => List.mem_cons_of_mem _ mem]
          rfl
  | object members ih =>
      have others : ∀ list : List (String × Json), (∀ member ∈ list, member ∈ members) → ∀ depth,
          withMargin margin (writeMembers ⟨[], unit⟩ depth list) =
            writeMembers ⟨margin, unit⟩ depth list := by
        intro list inside depth
        induction list with
        | nil => rfl
        | cons member rest tail =>
            have own := ih member (inside member List.mem_cons_self)
            simp only [writeMembers, List.cons_append, mark ',' (by decide), mark ':' (by decide),
              mark ' ' (by decide), withMargin_append, withMargin_newLine, string, own,
              tail fun other mem => inside other (List.mem_cons_of_mem _ mem)]
      cases members with
      | nil => rfl
      | cons member rest =>
          have own := ih member List.mem_cons_self
          simp only [write, List.cons_append, mark '\x7b' (by decide), mark ':' (by decide),
            mark ' ' (by decide), withMargin_append, withMargin_newLine, string, own,
            others rest fun other mem => List.mem_cons_of_mem _ mem]
          rfl

theorem literal_eq_withMargin (margin : String) (value : Json) :
    (literal margin value).toList = withMargin margin.toList (literal "" value).toList := by
  simp only [literal, literalWith, String.toList_ofList]
  exact (withMargin_write margin.toList 2 0 value).symm

end Json

end DesignTokens
