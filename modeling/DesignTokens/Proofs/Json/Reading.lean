import DesignTokens.Proofs.Entries.Collect
import DesignTokens.Proofs.Json.Parts
import DesignTokens.Proofs.Json.Strings
import DesignTokens.Proofs.Number.Limits
import DesignTokens.Proofs.Number.Texts

/-!
# Written documents are read back

A value is read back from the text that it is written as, however deep it stands and whatever
blank margin its lines have. The names of its objects are distinct and its whole numbers have
no more digits than are read, as in every document.
-/

namespace DesignTokens

namespace Json

/-- The number that a value is has no more digits than are read. -/
def NumberLimited : Json → Prop
  | .number x => x.Limited
  | _ => True

/-- A value that a text may hold. -/
def IsDocument (value : Json) : Prop :=
  value.Throughout fun part => part.NamesDistinct ∧ part.NumberLimited

theorem isDocument_empty : (Json.object []).IsDocument :=
  .object _ ⟨List.nodup_nil, trivial⟩ fun _ mem => absurd mem List.not_mem_nil

variable {s tail rest : List Char} {fuel : Nat}

section Scalars

/-- What starts like a number starts like no name of a literal. -/
theorem readLiteral?_of_scan {found : Number × List Char} (h : Number.scan s = some found) :
    readLiteral? s = none := by
  rw [readLiteral?, List.findSome?_eq_none_iff]
  rintro ⟨name, value⟩ mem
  refine if_neg fun starts => ?_
  obtain ⟨tail, rfl⟩ := List.isPrefixOf_iff_prefix.mp starts
  simp only [literals, List.mem_cons, List.not_mem_nil, or_false, Prod.mk.injEq] at mem
  rcases mem with ⟨rfl, -⟩ | ⟨rfl, -⟩ | ⟨rfl, -⟩ | ⟨rfl, -⟩ | ⟨rfl, -⟩ | ⟨rfl, -⟩ <;> cases h

theorem wholeDigits_integerText (n : Int) (ends : Number.NoNumberNext rest) :
    Number.wholeDigits (Number.integerText n ++ rest) = (Number.digitsOf n.natAbs).length := by
  have front := Number.scanWhole_digitsOf n.natAbs ends.noDigitNext
  rw [Number.integerText_eq, Number.withSign_append, Number.wholeDigits,
    Number.spanMinus_withSign front, front]

theorem readScalar_integerText {n : Int} (limited : (Number.integer n).Limited)
    (ends : Number.NoNumberNext rest) :
    readScalar (Number.integerText n ++ rest) = .ok (.number (.integer n), rest) := by
  have scanned := Number.scan_integerText n ends
  simp only [readScalar, readLiteral?_of_scan scanned, scanned, wholeDigits_integerText n ends]
  exact if_pos limited

theorem readScalar_text (negative : Bool) (rank : Fin Number.rankLimit)
    (ends : Number.NoNumberNext rest) :
    readScalar ((Number.Binary64.finite negative rank).text ++ rest) =
      .ok (.number (.real (.finite negative rank)), rest) := by
  have scanned := Number.scan_finite_text negative rank ends
  rw [readScalar, readLiteral?_of_scan scanned, scanned]

/-- A number is read back. -/
theorem readScalar_numberLiteral {x : Number} (limited : x.Limited)
    (ends : Number.NoNumberNext rest) :
    readScalar (numberLiteral x ++ rest) = .ok (.number x, rest) := by
  cases x with
  | integer n =>
      have text : numberLiteral (.integer n) = Number.integerText n := String.toList_ofList
      rw [text]
      exact readScalar_integerText limited ends
  | real y =>
      cases y with
      | finite negative rank =>
          have text : numberLiteral (.real (.finite negative rank)) =
              (Number.Binary64.finite negative rank).text := String.toList_ofList
          rw [text]
          exact readScalar_text negative rank ends
      | infinite negative => cases negative <;> rfl
      | nan => rfl

/-- A scalar starts with no character that starts anything else. -/
theorem readScalar_head {c : Char} {found : Json × List Char}
    (h : readScalar (c :: tail) = .ok found) :
    c ≠ '"' ∧ c ≠ '\x7b' ∧ c ≠ '[' ∧ c ≠ ']' ∧ c ≠ '\uFEFF' ∧ isSpace c = false := by
  refine ⟨?_, ?_, ?_, ?_, ?_, ?_⟩
  case refine_6 =>
    rw [Bool.eq_false_iff]
    intro space
    simp only [isSpace, Bool.or_eq_true, beq_iff_eq] at space
    rcases space with ((rfl | rfl) | rfl) | rfl <;> cases h
  all_goals
    rintro rfl
    cases h

theorem readValue_of_readScalar {found : Json × List Char} (h : readScalar s = .ok found) :
    readValue (fuel + 1) s = .ok found := by
  unfold readValue
  split
  case h_1 => exact absurd rfl (readScalar_head h).1
  case h_2 => exact absurd rfl (readScalar_head h).2.1
  case h_3 => exact absurd rfl (readScalar_head h).2.2.1
  case h_4 => exact h

end Scalars

section Starts

theorem skipSpace_of_not_space {c : Char} (other : isSpace c = false) :
    skipSpace (c :: tail) = c :: tail := by
  rw [skipSpace, List.dropWhile_cons_of_neg (by simp [other])]

theorem skipSpace_append {blanks : List Char} (blank : ∀ c ∈ blanks, isSpace c = true) :
    skipSpace (blanks ++ rest) = skipSpace rest :=
  List.dropWhile_append_of_pos blank

/-- What can be read as a value starts neither with white space nor with the end of an array. -/
theorem readValue_start {found : Json × List Char} (h : readValue fuel s = .ok found) :
    ∃ c tail, s = c :: tail ∧ isSpace c = false ∧ c ≠ ']' ∧ c ≠ '\uFEFF' := by
  cases fuel with
  | zero => cases h
  | succ fuel =>
      unfold readValue at h
      split at h
      case h_1 tail => exact ⟨'"', tail, rfl, by decide, by decide, by decide⟩
      case h_2 tail => exact ⟨'\x7b', tail, rfl, by decide, by decide, by decide⟩
      case h_3 tail => exact ⟨'[', tail, rfl, by decide, by decide, by decide⟩
      case h_4 =>
          cases s with
          | nil => cases h
          | cons c tail =>
              obtain ⟨_, _, _, bracket, mark, space⟩ := readScalar_head h
              exact ⟨c, tail, rfl, space, bracket, mark⟩

theorem readValue_array {inside : List Char} {items : List Json}
    (start : skipSpace inside = s) (found : readItems fuel s = .ok (items, rest)) :
    readValue (fuel + 1) ('[' :: inside) = .ok (.array items, rest) := by
  have first : ∃ c tail, s = c :: tail ∧ c ≠ ']' := by
    cases fuel with
    | zero => cases found
    | succ fuel =>
        cases item : readValue fuel s with
        | error halt =>
            rw [readItems, item] at found
            cases found
        | ok read =>
            obtain ⟨c, tail, same, _, other, _⟩ := readValue_start item
            exact ⟨c, tail, same, other⟩
  obtain ⟨c, tail, rfl, other⟩ := first
  simp only [readValue, start]
  split
  case h_1 same => exact absurd (List.cons.inj same).1 other
  case h_2 => rw [found]; rfl

theorem readValue_object {inside : List Char} {pairs : List (String × Json)}
    (start : skipSpace inside = s) (found : readMembers fuel s = .ok (pairs, rest)) :
    readValue (fuel + 1) ('\x7b' :: inside) = .ok (.object (Entries.ofPairs pairs), rest) := by
  have first : ∃ tail, s = '"' :: tail := by
    cases fuel with
    | zero => cases found
    | succ fuel =>
        unfold readMembers at found
        split at found
        case h_1 tail => exact ⟨tail, rfl⟩
        case h_2 => cases found
  obtain ⟨tail, rfl⟩ := first
  simp only [readValue, start]
  split
  case h_1 same => cases same
  case h_2 => rw [found]; rfl

end Starts

section Values

variable {layout : Layout} {depth : Nat} {closing : List Char}

theorem skipSpace_newLine (blank : ∀ c ∈ layout.margin, isSpace c = true) (depth : Nat)
    (rest : List Char) : skipSpace (layout.newLine depth ++ rest) = skipSpace rest := by
  apply skipSpace_append
  intro c mem
  rcases List.mem_append.mp mem with mem | mem
  · rcases List.mem_cons.mp mem with rfl | mem
    · rfl
    · exact blank c mem
  · rw [List.eq_of_mem_replicate mem]
    rfl

theorem noNumberNext_newLine (layout : Layout) (depth : Nat) (rest : List Char) :
    Number.NoNumberNext (layout.newLine depth ++ rest) :=
  Number.noNumberNext_cons (by decide)

theorem noNumberNext_writeItems (layout : Layout) (depth : Nat) (items : List Json)
    (ends : Number.NoNumberNext closing) :
    Number.NoNumberNext (writeItems layout depth items ++ closing) := by
  cases items with
  | nil => exact ends
  | cons _ _ => exact Number.noNumberNext_cons (by decide)

/-- A value is read back at every depth, with what follows it left over. -/
def ReadsBack (layout : Layout) (value : Json) : Prop :=
  ∀ fuel depth rest, (write layout depth value).length ≤ fuel → Number.NoNumberNext rest →
    readValue fuel (write layout depth value ++ rest) = .ok (value, rest)

/-- Nothing is skipped in front of a written value. -/
theorem ReadsBack.skipSpace_eq {value : Json} (reads : ReadsBack layout value) (depth : Nat)
    (ends : Number.NoNumberNext rest) :
    skipSpace (write layout depth value ++ rest) = write layout depth value ++ rest := by
  obtain ⟨c, tail, same, space, _⟩ := readValue_start (reads _ depth rest (Nat.le_refl _) ends)
  rw [same, skipSpace_of_not_space space]

/-- The items of an array are read one after the other, and every character of their texts allows
one more step. -/
theorem readItems_write (blank : ∀ c ∈ layout.margin, isSpace c = true) {items : List Json}
    (each : ∀ item ∈ items, ReadsBack layout item) {item : Json} (own : ReadsBack layout item)
    (enough : (write layout depth item).length + (writeItems layout depth items).length < fuel)
    (ends : Number.NoNumberNext closing) (close : skipSpace closing = ']' :: rest) :
    readItems fuel (write layout depth item ++ (writeItems layout depth items ++ closing)) =
      .ok (item :: items, rest) := by
  induction items generalizing item fuel with
  | nil =>
      obtain ⟨fuel, rfl⟩ := Nat.exists_eq_add_one.mpr (Nat.zero_lt_of_lt enough)
      have first := own fuel depth closing (by omega) ends
      simp only [writeItems, List.nil_append, readItems, first, bind, Except.bind, close]
  | cons next more ih =>
      obtain ⟨fuel, rfl⟩ := Nat.exists_eq_add_one.mpr (Nat.zero_lt_of_lt enough)
      have reads := each next List.mem_cons_self
      have text : writeItems layout depth (next :: more) = ',' :: (layout.newLine depth ++
          (write layout depth next ++ writeItems layout depth more)) := by
        simp [writeItems]
      rw [text] at enough ⊢
      simp only [List.length_cons, List.length_append] at enough
      have first := fun tail => own fuel depth (',' :: tail) (by omega)
        (Number.noNumberNext_cons (by decide))
      have after := noNumberNext_writeItems layout depth more ends
      have shorter : (write layout depth next).length + (writeItems layout depth more).length <
          fuel := by omega
      have others := ih (fun other mem => each other (List.mem_cons_of_mem _ mem)) reads shorter
      simp only [List.cons_append, List.append_assoc, readItems, first, bind, Except.bind,
        skipSpace_of_not_space (show isSpace ',' = false by decide), skipSpace_newLine blank,
        reads.skipSpace_eq depth after, others]

/-- The members of an object are read likewise, each behind its name and a colon. -/
theorem readMembers_write (blank : ∀ c ∈ layout.margin, isSpace c = true)
    {members : List (String × Json)} (name : String)
    (each : ∀ member ∈ members, ReadsBack layout member.2) {value : Json}
    (own : ReadsBack layout value)
    (enough : (write layout depth value).length + (writeMembers layout depth members).length <
      fuel)
    (ends : Number.NoNumberNext closing) (close : skipSpace closing = '\x7d' :: rest) :
    readMembers fuel (stringLiteral false name ++ ':' :: ' ' ::
      (write layout depth value ++ (writeMembers layout depth members ++ closing))) =
        .ok ((name, value) :: members, rest) := by
  have colon : isSpace ':' = false := by decide
  have single : ∀ c ∈ [' '], isSpace c = true := List.forall_mem_singleton.mpr rfl
  have gap : ∀ s, skipSpace (' ' :: s) = skipSpace s := fun _ => skipSpace_append single
  induction members generalizing name value fuel with
  | nil =>
      obtain ⟨fuel, rfl⟩ := Nat.exists_eq_add_one.mpr (Nat.zero_lt_of_lt enough)
      have first := own fuel depth closing (by omega) ends
      simp only [writeMembers, List.nil_append, stringLiteral, List.cons_append, List.append_assoc,
        readMembers, readChars_literal, skipSpace_of_not_space colon, gap,
        own.skipSpace_eq depth ends, first, close, bind, Except.bind, String.ofList_toList]
  | cons next more ih =>
      obtain ⟨fuel, rfl⟩ := Nat.exists_eq_add_one.mpr (Nat.zero_lt_of_lt enough)
      obtain ⟨other, item⟩ := next
      have text : writeMembers layout depth ((other, item) :: more) = ',' ::
          (layout.newLine depth ++ (stringLiteral false other ++ ':' :: ' ' ::
            (write layout depth item ++ writeMembers layout depth more))) := by
        simp [writeMembers]
      rw [text] at enough ⊢
      simp only [List.length_cons, List.length_append] at enough
      have first := fun tail => own fuel depth (',' :: tail) (by omega)
        (Number.noNumberNext_cons (by decide))
      have start : ∀ tail, skipSpace (write layout depth value ++ ',' :: tail) =
          write layout depth value ++ ',' :: tail := fun _ =>
        own.skipSpace_eq depth (Number.noNumberNext_cons (by decide))
      have reads : ReadsBack layout item := each (other, item) List.mem_cons_self
      have shorter : (write layout depth item).length +
          (writeMembers layout depth more).length < fuel := by omega
      have others := ih other (fun member mem => each member (List.mem_cons_of_mem _ mem)) reads
        shorter
      simp only [stringLiteral, List.cons_append, List.append_assoc, List.nil_append] at others
      simp only [stringLiteral, List.cons_append, List.append_assoc, List.nil_append, readMembers,
        readChars_literal, skipSpace_of_not_space colon, gap, start, first,
        skipSpace_of_not_space (show isSpace ',' = false by decide), skipSpace_newLine blank,
        skipSpace_of_not_space (show isSpace '"' = false by decide), bind, Except.bind,
        String.ofList_toList, others]

theorem readsBack_of_readScalar {value : Json}
    (scalar : ∀ depth rest, Number.NoNumberNext rest →
      readScalar (write layout depth value ++ rest) = .ok (value, rest)) :
    ReadsBack layout value := by
  intro fuel depth rest enough ends
  cases fuel with
  | zero =>
      -- Only an empty text leaves no step, and no scalar is written as one.
      have empty := List.eq_nil_of_length_eq_zero (Nat.le_zero.mp enough)
      have read := scalar depth [] (by simp [Number.NoNumberNext])
      rw [empty] at read
      cases read
  | succ fuel => exact readValue_of_readScalar (scalar depth rest ends)

theorem readsBack_array (blank : ∀ c ∈ layout.margin, isSpace c = true) {items : List Json}
    (each : ∀ item ∈ items, ReadsBack layout item) : ReadsBack layout (.array items) := by
  intro fuel depth rest enough ends
  cases items with
  | nil =>
      obtain ⟨fuel, rfl⟩ := Nat.exists_eq_add_one.mpr (Nat.lt_of_lt_of_le (by simp [write]) enough)
      rfl
  | cons item more =>
      have text : write layout depth (.array (item :: more)) ++ rest =
          '[' :: (layout.newLine (depth + 1) ++ (write layout (depth + 1) item ++
            (writeItems layout (depth + 1) more ++ (layout.newLine depth ++ ']' :: rest)))) := by
        simp [write]
      have count := congrArg List.length text
      simp only [List.length_append, List.length_cons] at count
      obtain ⟨fuel, rfl⟩ := Nat.exists_eq_add_one.mpr (show 0 < fuel by omega)
      have own := each item List.mem_cons_self
      have close : skipSpace (layout.newLine depth ++ ']' :: rest) = ']' :: rest := by
        rw [skipSpace_newLine blank, skipSpace_of_not_space (by decide)]
      have ends := noNumberNext_newLine layout depth (']' :: rest)
      have after := noNumberNext_writeItems layout (depth + 1) more ends
      have enough : (write layout (depth + 1) item).length +
          (writeItems layout (depth + 1) more).length < fuel := by omega
      have found := readItems_write blank
        (fun other mem => each other (List.mem_cons_of_mem _ mem)) own enough ends close
      rw [text]
      refine readValue_array ?_ found
      rw [skipSpace_newLine blank, own.skipSpace_eq _ after]

theorem readsBack_object (blank : ∀ c ∈ layout.margin, isSpace c = true)
    {members : List (String × Json)} (distinct : (members.map Prod.fst).Nodup)
    (each : ∀ member ∈ members, ReadsBack layout member.2) :
    ReadsBack layout (.object members) := by
  intro fuel depth rest enough ends
  cases members with
  | nil =>
      obtain ⟨fuel, rfl⟩ := Nat.exists_eq_add_one.mpr (Nat.lt_of_lt_of_le (by simp [write]) enough)
      rfl
  | cons member more =>
      obtain ⟨name, value⟩ := member
      have text : write layout depth (.object ((name, value) :: more)) ++ rest =
          '\x7b' :: (layout.newLine (depth + 1) ++ (stringLiteral false name ++ ':' :: ' ' ::
            (write layout (depth + 1) value ++ (writeMembers layout (depth + 1) more ++
              (layout.newLine depth ++ '\x7d' :: rest))))) := by
        simp [write]
      have count := congrArg List.length text
      simp only [List.length_append, List.length_cons] at count
      obtain ⟨fuel, rfl⟩ := Nat.exists_eq_add_one.mpr (show 0 < fuel by omega)
      have own : ReadsBack layout value := each (name, value) List.mem_cons_self
      have close : skipSpace (layout.newLine depth ++ '\x7d' :: rest) = '\x7d' :: rest := by
        rw [skipSpace_newLine blank, skipSpace_of_not_space (by decide)]
      have ends := noNumberNext_newLine layout depth ('\x7d' :: rest)
      have enough : (write layout (depth + 1) value).length +
          (writeMembers layout (depth + 1) more).length < fuel := by omega
      have found := readMembers_write blank name
        (fun other mem => each other (List.mem_cons_of_mem _ mem)) own enough ends close
      rw [text, ← Entries.ofPairs_of_nodup distinct]
      refine readValue_object ?_ found
      rw [skipSpace_newLine blank]
      exact skipSpace_of_not_space (by decide)

/-- A document is read back from what it is written as. -/
theorem readsBack (blank : ∀ c ∈ layout.margin, isSpace c = true) {value : Json}
    (document : value.IsDocument) : ReadsBack layout value := by
  induction value using partInduction with
  | null => exact readsBack_of_readScalar fun _ _ _ => rfl
  | bool b =>
      apply readsBack_of_readScalar
      cases b <;> exact fun _ _ _ => rfl
  | number x => exact readsBack_of_readScalar fun _ _ ends =>
      readScalar_numberLiteral document.self.2 ends
  | string s =>
      intro fuel depth rest enough ends
      obtain ⟨fuel, rfl⟩ := Nat.exists_eq_add_one.mpr
        (Nat.lt_of_lt_of_le (by simp [write, stringLiteral]) enough)
      simp only [write, stringLiteral, List.cons_append, List.append_assoc, List.nil_append,
        readValue, readChars_literal]
      simp [Except.map]
  | array items ih =>
      exact readsBack_array blank fun item mem => ih item mem (document.item item mem)
  | object members ih =>
      exact readsBack_object blank document.self.1 fun member mem =>
        ih member mem (document.member member mem)

/-- The text of a document holds the document. -/
theorem read_write (blank : ∀ c ∈ layout.margin, isSpace c = true) {value : Json}
    (document : value.IsDocument) (depth : Nat) : read (write layout depth value) = .ok value := by
  have reads := readsBack blank document (2 * (write layout depth value).length + 2) depth []
    (by omega) (by simp [Number.NoNumberNext])
  rw [List.append_nil] at reads
  obtain ⟨c, tail, same, space, _, mark⟩ := readValue_start reads
  have whole : readDocument (write layout depth value) = .ok value := by
    unfold readDocument
    rw [same] at reads ⊢
    split
    case h_1 starts => exact absurd (List.cons.inj starts).1 mark
    case h_2 =>
        rw [skipSpace_of_not_space space, reads]
        rfl
  rw [read, whole]

end Values

end Json

end DesignTokens
