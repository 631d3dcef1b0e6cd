import DesignTokens.Proofs.Script.Declarations
import DesignTokens.Proofs.Script.Properties

/-!
# Names that lines of a text use

Generated examples use a name on a line that begins with a fixed text. Such a line is found in a
text by its beginning alone, so what is found is everything that the text uses in this way.

## Implementation notes

The access of a key that ends with a line feed goes on in the next line. So a name is no part of a
line here but a part of the text, and only the lines around it are told apart.
-/

namespace DesignTokens.Script

variable {opening front closing : String}

/-- No line of a text begins with an opening. -/
def LacksLine (opening text : String) : Prop :=
  ∀ line ∈ Text.feedLines text.toList, ¬opening.toList <+: line

instance (opening text : String) : Decidable (LacksLine opening text) :=
  inferInstanceAs (Decidable (∀ line ∈ Text.feedLines text.toList, ¬opening.toList <+: line))

/-- Of some lines one begins with an opening and goes on with a name and a closing, or none begins
so. -/
def LinesUse (opening closing : String) (lines : List String) : Option String → Prop
  | none => ∀ line ∈ lines, LacksLine opening line
  | some name => ∃ before after, lines = before ++ (opening ++ name ++ closing) :: after ∧
      (∀ line ∈ before, LacksLine opening line) ∧ ∀ line ∈ after, LacksLine opening line

/-- A text uses a name as its lines do. -/
def Uses (opening closing text : String) (name? : Option String) : Prop :=
  ∃ lines, lines ≠ [] ∧ text = Text.joinLines lines ∧ LinesUse opening closing lines name?

section Lines

theorem lacksLine_of_feed_not_mem {line : String} (feed : '\n' ∉ line.toList)
    (other : ¬opening.toList <+: line.toList) : LacksLine opening line := by
  intro part mem
  rw [Text.feedLines_of_feed_not_mem feed, List.mem_singleton] at mem
  rwa [mem]

/-- Whether a text is one line that does not begin with an opening. -/
def quietLine (begin line : List Char) : Bool :=
  !line.contains '\n' && !begin.isPrefixOf line

/-- Lines, none of which begins with an opening, gone through one by one. Strings are taken apart by
their characters here, which keeps it quick to check. -/
inductive Quiet (begin : List Char) : List String → Prop where
  | nil : Quiet begin []
  | cons {line : List Char} {lines : List String} (own : quietLine begin line = true)
      (rest : Quiet begin lines) : Quiet begin (String.ofList line :: lines)

theorem lacksLine_of_quietLine {begin line : List Char} (quiet : quietLine begin line = true) :
    LacksLine (String.ofList begin) (String.ofList line) := by
  rw [quietLine, Bool.and_eq_true, Bool.not_eq_true', Bool.not_eq_true', List.contains_eq_mem,
    decide_eq_false_iff_not] at quiet
  apply lacksLine_of_feed_not_mem
  · rw [String.toList_ofList]
    exact quiet.1
  · rw [String.toList_ofList, String.toList_ofList, ← List.isPrefixOf_iff_prefix, quiet.2]
    exact Bool.false_ne_true

theorem Quiet.lacksLine {begin : List Char} {lines : List String} (quiet : Quiet begin lines) :
    ∀ line ∈ lines, LacksLine (String.ofList begin) line := by
  induction quiet with
  | nil => exact List.forall_mem_nil _
  | cons own _ ih => exact List.forall_mem_cons.mpr ⟨lacksLine_of_quietLine own, ih⟩

/-- A line that lacks an opening declares nothing behind it. -/
theorem LacksLine.declared_eq_nil {text : String} (lacks : LacksLine opening text) :
    declared opening closing text = [] := by
  rw [declared, List.filterMap_eq_nil_iff]
  intro line mem
  rw [Option.eq_none_iff_forall_ne_some]
  intro name found
  apply lacks line mem
  rw [(declaredIn?_eq_some_iff opening closing line name).mp found, List.append_assoc]
  exact List.prefix_append _ _

theorem flatMap_declared_eq_nil {lines : List String}
    (lacks : ∀ line ∈ lines, LacksLine opening line) :
    lines.flatMap (declared opening closing) = [] :=
  List.flatMap_eq_nil_iff.mpr fun line mem => (lacks line mem).declared_eq_nil

theorem flatMap_declared_behind {names lines others : List String}
    (declares : lines.flatMap (declared opening closing) = names)
    (none : others.flatMap (declared opening closing) = []) :
    (others ++ lines).flatMap (declared opening closing) = names := by
  rw [List.flatMap_append, none, declares, List.nil_append]

theorem flatMap_declared_above {names lines others : List String}
    (declares : lines.flatMap (declared opening closing) = names)
    (none : others.flatMap (declared opening closing) = []) :
    (lines ++ others).flatMap (declared opening closing) = names := by
  rw [List.flatMap_append, none, declares, List.append_nil]

section Use

variable {lines others : List String} {name? : Option String}

theorem LinesUse.uses (use : LinesUse opening closing lines name?) (nonempty : lines ≠ []) :
    Uses opening closing (Text.joinLines lines) name? :=
  ⟨lines, nonempty, rfl, use⟩

theorem linesUse_singleton (name : String) :
    LinesUse opening closing [opening ++ name ++ closing] (some name) :=
  ⟨[], [], rfl, List.forall_mem_nil _, List.forall_mem_nil _⟩

theorem LinesUse.behind (use : LinesUse opening closing lines name?)
    (lacks : ∀ line ∈ others, LacksLine opening line) :
    LinesUse opening closing (others ++ lines) name? := by
  cases name? with
  | none => exact List.forall_mem_append.mpr ⟨lacks, use⟩
  | some name =>
      obtain ⟨before, after, rfl, above, below⟩ := use
      refine ⟨others ++ before, after, ?_, List.forall_mem_append.mpr ⟨lacks, above⟩, below⟩
      rw [List.append_assoc]

theorem LinesUse.above (use : LinesUse opening closing lines name?)
    (lacks : ∀ line ∈ others, LacksLine opening line) :
    LinesUse opening closing (lines ++ others) name? := by
  cases name? with
  | none => exact List.forall_mem_append.mpr ⟨use, lacks⟩
  | some name =>
      obtain ⟨before, after, rfl, above, below⟩ := use
      refine ⟨before, after ++ others, ?_, above, List.forall_mem_append.mpr ⟨below, lacks⟩⟩
      rw [List.append_assoc, List.cons_append]

/-- A name that is used on one line is the only one that is declared there. -/
theorem Uses.declared_eq {text : String} (use : Uses opening closing text name?)
    (solid : ∀ name ∈ name?, '\n' ∉ opening.toList ++ name.toList ++ closing.toList) :
    declared opening closing text = name?.toList := by
  obtain ⟨lines, nonempty, rfl, use⟩ := use
  rw [declared_joinLines _ _ nonempty]
  cases name? with
  | none => exact flatMap_declared_eq_nil use
  | some name =>
      obtain ⟨before, after, rfl, above, below⟩ := use
      rw [List.flatMap_append, List.flatMap_cons, flatMap_declared_eq_nil above,
        flatMap_declared_eq_nil below, declared_declaration (solid name rfl)]
      rfl

/-- Lines use what one of them uses if the lines around this one lack its opening. -/
theorem linesUse_of_line (place : Nat) {line : String}
    (above : ∀ line ∈ lines.take place, LacksLine opening line) (here : lines[place]? = some line)
    (below : ∀ line ∈ lines.drop (place + 1), LacksLine opening line)
    (own : LinesUse opening closing [line] name?) : LinesUse opening closing lines name? := by
  obtain ⟨inside, rfl⟩ := List.getElem?_eq_some_iff.mp here
  rw [← List.take_append_drop place lines, List.drop_eq_getElem_cons inside]
  exact (own.above below).behind above

theorem LinesUse.behind_quiet {begin : List Char}
    (use : LinesUse (String.ofList begin) closing lines name?) (quiet : Quiet begin others) :
    LinesUse (String.ofList begin) closing (others ++ lines) name? :=
  use.behind quiet.lacksLine

theorem LinesUse.above_quiet {begin : List Char}
    (use : LinesUse (String.ofList begin) closing lines name?) (quiet : Quiet begin others) :
    LinesUse (String.ofList begin) closing (lines ++ others) name? :=
  use.above quiet.lacksLine

end Use

end Lines

section Names

variable {begin front closing : List Char}

/-- A line around a name differs from an opening in front of the name, and no feed stands around the
name. -/
def QuietAround (begin front closing : List Char) : Prop :=
  (¬begin <+: front ∧ ¬front <+: begin) ∧ '\n' ∉ front ∧ '\n' ∉ closing

instance (begin front closing : List Char) : Decidable (QuietAround begin front closing) :=
  inferInstanceAs (Decidable (_ ∧ _))

/-- What differs within the front differs whatever follows. -/
theorem QuietAround.not_prefix (quiet : QuietAround begin front closing) (rest : List Char) :
    ¬begin <+: front ++ rest := by
  intro begins
  rcases Nat.le_total begin.length front.length with short | long
  · exact quiet.1.1 (List.prefix_of_prefix_length_le begins (List.prefix_append _ _) short)
  · exact quiet.1.2 (List.prefix_of_prefix_length_le (List.prefix_append _ _) begins long)

theorem toList_around (front closing : List Char) (name : String) :
    (String.ofList front ++ name ++ String.ofList closing).toList =
      front ++ (name.toList ++ closing) := by
  simp

theorem lacksLine_name (quiet : QuietAround begin front closing) {name : String}
    (feed : '\n' ∉ name.toList) :
    LacksLine (String.ofList begin) (String.ofList front ++ name ++ String.ofList closing) := by
  apply lacksLine_of_feed_not_mem
  · rw [toList_around]
    simp [quiet.2, feed]
  · rw [toList_around, String.toList_ofList]
    exact quiet.not_prefix _

theorem feed_not_mem_asciiLiteral (text : String) : '\n' ∉ (Json.asciiLiteral text).toList := by
  rw [Json.asciiLiteral, String.toList_ofList]
  exact Json.feed_not_mem_stringLiteral true text

end Names

section Accesses

variable {c : Char} {begin closes : List Char}

/-- An access is of one line, or has a feed at its end. -/
theorem propertyAccess_cases (key : String) :
    ∃ mark inside, (mark = '.' ∨ mark = '[') ∧ '\n' ∉ inside ∧
      ((propertyAccess key).toList = mark :: inside ∨
        (propertyAccess key).toList = mark :: inside ++ ['\n']) := by
  rw [toList_propertyAccess]
  rcases isBare_or_feedEnded_or_quoted key with
    ⟨own, kind, -⟩ | ⟨bare, own, same, kind, -⟩ | ⟨kind, -⟩
  · rw [if_pos kind]
    exact ⟨_, _, Or.inl rfl, feed_not_mem_of_isBare own, Or.inl rfl⟩
  · rw [if_pos kind, same]
    exact ⟨_, bare, Or.inl rfl, feed_not_mem_of_isBare own, Or.inr rfl⟩
  · rw [if_neg (by simp [kind])]
    refine ⟨_, Json.stringLiteral true key ++ [']'], Or.inr rfl, ?_, Or.inl rfl⟩
    simp [Json.feed_not_mem_stringLiteral]

/-- The lines of a chain of accesses behind the first one begin with an access or with what stands
behind the chain. -/
theorem not_prefix_of_mem_accesses (starts : begin.head? = some c) (dot : c ≠ '.')
    (bracket : c ≠ '[') (solid : '\n' ∉ closes) (ends : closes.head? ≠ some c)
    (keys : List String) {start : List Char} (feed : '\n' ∉ start)
    (other : ∀ rest : List Char, rest.head? ≠ some c → ¬begin <+: start ++ rest) :
    ∀ line ∈ Text.feedLines (start ++ ((accessChain keys).toList ++ closes)),
      ¬begin <+: line := by
  induction keys generalizing start with
  | nil =>
      intro line mem
      have whole : '\n' ∉ start ++ closes := by simp [feed, solid]
      rw [toList_accessChain, List.flatMap_nil, List.nil_append,
        Text.feedLines_of_feed_not_mem whole, List.mem_singleton] at mem
      rw [mem]
      exact other closes ends
  | cons key others ih =>
      obtain ⟨mark, inside, marked, plain, access⟩ := propertyAccess_cases key
      have apart : mark ≠ c := by
        rcases marked with rfl | rfl
        · exact dot.symm
        · exact bracket.symm
      have longer : '\n' ∉ start ++ mark :: inside := by
        rcases marked with rfl | rfl <;> simp [feed, plain]
      have further : ∀ rest : List Char, ¬begin <+: start ++ mark :: inside ++ rest := by
        intro rest
        rw [List.append_assoc]
        exact other _ (by simpa using apart)
      rw [toList_accessChain_cons]
      rcases access with access | access
      · rw [access, List.append_assoc, ← List.append_assoc start]
        exact ih longer fun rest _ => further rest
      · -- the feed ends the line, and the next one begins with the rest of the chain
        have split : start ++ (mark :: inside ++ ['\n'] ++ (accessChain others).toList ++ closes) =
            start ++ mark :: inside ++ '\n' :: ([] ++ ((accessChain others).toList ++ closes)) := by
          simp
        rw [access, split, Text.feedLines_append_feed, Text.feedLines_of_feed_not_mem longer]
        intro line mem
        rcases List.mem_cons.mp mem with rfl | later
        · simpa using further []
        · refine ih List.not_mem_nil ?_ line later
          rintro rest head begins
          obtain ⟨tail, rfl⟩ := begins
          rw [List.head?_append, starts] at head
          exact head rfl

/-- An opening begins neither as an access nor as a closing does. -/
def QuietBehind (begin closing : List Char) : Prop :=
  begin.head? ∉ [none, some '.', some '[', closing.head?]

instance (begin closing : List Char) : Decidable (QuietBehind begin closing) :=
  inferInstanceAs (Decidable (_ ∉ _))

/-- A line with a chain of accesses that differs from an opening in front of the chain lacks it,
also where a feed in the chain breaks the line. -/
theorem lacksLine_accesses {front : List Char} (quiet : QuietAround begin front closes)
    (behind : QuietBehind begin closes) (keys : List String) :
    LacksLine (String.ofList begin)
      (String.ofList front ++ accessChain keys ++ String.ofList closes) := by
  simp only [QuietBehind, List.mem_cons, List.not_mem_nil, or_false, not_or] at behind
  obtain ⟨nonempty, dot, bracket, ends⟩ := behind
  obtain ⟨c, starts⟩ := Option.ne_none_iff_exists'.mp nonempty
  rw [starts] at dot bracket ends
  rw [LacksLine, toList_around, String.toList_ofList]
  apply not_prefix_of_mem_accesses starts _ _ quiet.2.2 (Ne.symm ends) keys quiet.2.1
  · exact fun rest _ => quiet.not_prefix rest
  · simpa using dot
  · simpa using bracket

end Accesses

end DesignTokens.Script
