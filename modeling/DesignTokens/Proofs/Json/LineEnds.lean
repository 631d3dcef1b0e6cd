import DesignTokens.Proofs.Json.Grammar

/-!
# Line ends in documents

A line end stands in a document only where white space may stand: what starts neither a string nor
a scalar is white space or a mark, a string holds no control character, an escape stands for none,
and a scalar stops in front of it. So texts of the same lines hold the same document.
-/

namespace DesignTokens

namespace Text

/-- Hexadecimal digits end no line. -/
theorem not_isLineEnd_of_hexNumber? {digits : List Char} {n : Nat}
    (h : hexNumber? digits = some n) : ∀ c ∈ digits, ¬IsLineEnd c := by
  induction digits using List.reverseRecOn generalizing n with
  | nil => exact fun _ mem => absurd mem List.not_mem_nil
  | append_singleton front last ih =>
      rw [hexNumber?, List.foldl_append, ← hexNumber?] at h
      cases before : hexNumber? front with
      | none => simp [before] at h
      | some m =>
          have plain : ¬IsLineEnd last := by
            rintro (rfl | rfl) <;> simp [before, hexValue?] at h
          exact List.forall_mem_append.mpr ⟨ih before, List.forall_mem_singleton.mpr plain⟩

end Text

namespace Json

open Text (SameLines IsLineEnd)

variable {s t cs rest after : List Char} {value : Json} {piece : Piece} {low : Nat}

theorem skipSpace_sameLines (same : SameLines s t) : SameLines (skipSpace s) (skipSpace t) := by
  have alike : isSpace '\r' = isSpace '\n' := rfl
  rw [SameLines, skipSpace, skipSpace, ← Text.dropWhile_unifyNewlines alike, same,
    Text.dropWhile_unifyNewlines alike]

/-- A mark stands behind the white space of both texts. -/
theorem exists_skipSpace {c : Char} (same : SameLines s t) (plain : ¬IsLineEnd c)
    (mark : skipSpace s = c :: rest) : ∃ left, skipSpace t = c :: left ∧ SameLines rest left :=
  (mark ▸ skipSpace_sameLines same).cons plain

section Strings

theorem not_isLineEnd_of_escaped? {c d : Char} (stands : escaped? c = some d) :
    ¬IsLineEnd c := by
  rintro (rfl | rfl) <;> cases stands

theorem not_isLineEnd_of_unit {a b c d : Char} {unit : Nat}
    (digits : Text.hexNumber? [a, b, c, d] = some unit) :
    ∀ e ∈ ['\\', 'u', a, b, c, d], ¬IsLineEnd e :=
  List.forall_mem_cons.mpr ⟨by decide,
    List.forall_mem_cons.mpr ⟨by decide, Text.not_isLineEnd_of_hexNumber? digits⟩⟩

theorem exists_lowUnit? (same : SameLines s t) (found : lowUnit? s = some (low, after)) :
    ∃ left, lowUnit? t = some (low, left) ∧ SameLines after left := by
  obtain ⟨e, f, g, h, rfl, digits, second⟩ := lowUnit?_eq_some_iff.mp found
  obtain ⟨left, rfl, tails⟩ := SameLines.append (not_isLineEnd_of_unit digits) same
  exact ⟨left, lowUnit?_eq_some_iff.mpr ⟨e, f, g, h, rfl, digits, second⟩, tails⟩

/-- A string is spelled by both texts. -/
theorem Spells.exists_sameLines (spells : Spells s cs rest) (same : SameLines s t) :
    ∃ left, Spells t cs left ∧ SameLines rest left := by
  induction spells generalizing t with
  | close rest =>
      obtain ⟨left, rfl, tails⟩ := same.cons (by decide)
      exact ⟨left, .close left, tails⟩
  | @plain c s cs rest quote solidus printable tail ih =>
      have plain : ¬IsLineEnd c := by
        rintro (rfl | rfl) <;> exact absurd printable (by decide)
      obtain ⟨more, rfl, tails⟩ := same.cons plain
      obtain ⟨left, spells, behind⟩ := ih tails
      exact ⟨left, .plain quote solidus printable spells, behind⟩
  | @escape c d s cs rest stands tail ih =>
      have plain : ∀ e ∈ ['\\', c], ¬IsLineEnd e := by
        simpa using ⟨by decide, not_isLineEnd_of_escaped? stands⟩
      obtain ⟨more, rfl, tails⟩ := SameLines.append plain same
      obtain ⟨left, spells, behind⟩ := ih tails
      exact ⟨left, .escape stands spells, behind⟩
  | unit digits single tail ih =>
      obtain ⟨more, rfl, tails⟩ := SameLines.append (not_isLineEnd_of_unit digits) same
      obtain ⟨left, spells, behind⟩ := ih tails
      refine ⟨left, .unit digits (fun first => ?_) spells, behind⟩
      -- What would go on with a pair in the second text would do so in the first one.
      rw [Option.eq_none_iff_forall_ne_some]
      rintro ⟨low, after⟩ second
      obtain ⟨_, found, _⟩ := exists_lowUnit? tails.symm second
      cases (single first).symm.trans found
  | pair digits first second tail ih =>
      obtain ⟨more, rfl, tails⟩ := SameLines.append (not_isLineEnd_of_unit digits) same
      obtain ⟨behind, found, later⟩ := exists_lowUnit? tails second
      obtain ⟨left, spells, behind⟩ := ih later
      exact ⟨left, .pair digits first found spells, behind⟩

end Strings

section Scalars

theorem not_isLineEnd_of_mem_literals {name : List Char} {found : Json}
    (mem : (name, found) ∈ literals) : ∀ c ∈ name, ¬IsLineEnd c := by
  simp only [literals, List.mem_cons, List.not_mem_nil, or_false, Prod.mk.injEq] at mem
  rcases mem with ⟨rfl, -⟩ | ⟨rfl, -⟩ | ⟨rfl, -⟩ | ⟨rfl, -⟩ | ⟨rfl, -⟩ | ⟨rfl, -⟩ <;>
    simp [IsLineEnd]

theorem readLiteral?_unifyNewlines (s : List Char) :
    readLiteral? (Text.unifyNewlines s) =
      (readLiteral? s).map (Prod.map id Text.unifyNewlines) := by
  rw [readLiteral?, readLiteral?, List.map_findSome?, ← List.head?_filterMap,
    ← List.head?_filterMap]
  refine congrArg List.head? (List.filterMap_congr ?_)
  rintro ⟨name, found⟩ mem
  have plain := not_isLineEnd_of_mem_literals mem
  by_cases starts : name <+: s
  · obtain ⟨rest, rfl⟩ := starts
    have solid : ∀ c ∈ name, c ≠ '\r' := fun c inside returns => plain c inside (.inl returns)
    simp [Text.unifyNewlines_append solid]
  · have other : ¬name <+: Text.unifyNewlines s := by
      rintro ⟨rest, same⟩
      have lines : SameLines (name ++ rest) s := same ▸ SameLines.unify s
      obtain ⟨tail, whole, _⟩ := lines.append plain
      exact starts ⟨tail, whole.symm⟩
    simp [starts, other]

/-- A scalar is read alike whatever line ends follow it. -/
theorem toOption_readScalar_unifyNewlines (s : List Char) :
    (readScalar (Text.unifyNewlines s)).toOption =
      (readScalar s).toOption.map (Prod.map id Text.unifyNewlines) := by
  rw [readScalar, readScalar, readLiteral?_unifyNewlines, Number.scan_unifyNewlines,
    Number.wholeDigits_unifyNewlines]
  cases readLiteral? s with
  | some found => rfl
  | none =>
      cases Number.scan s with
      | none => rfl
      | some found =>
          obtain ⟨x, rest⟩ := found
          cases x with
          | integer n =>
              simp only [Option.map_none, Option.map_some, Prod.map_apply, id]
              split <;> rfl
          | real y => rfl

theorem exists_readScalar (same : SameLines s t) (read : readScalar s = .ok (value, rest)) :
    ∃ left, readScalar t = .ok (value, left) ∧ SameLines rest left := by
  have unified := toOption_readScalar_unifyNewlines s
  rw [read, same, toOption_readScalar_unifyNewlines] at unified
  cases found : readScalar t with
  | error halt =>
      rw [found] at unified
      cases unified
  | ok pair =>
      obtain ⟨other, left⟩ := pair
      rw [found] at unified
      obtain ⟨rfl, tails⟩ := Prod.mk.inj (Option.some.inj unified)
      exact ⟨left, rfl, tails.symm⟩

end Scalars

/-- A piece of a document stands in both texts. -/
theorem Holds.exists_sameLines (holds : Holds s piece rest) (same : SameLines s t) :
    ∃ left, Holds t piece left ∧ SameLines rest left := by
  induction holds generalizing t with
  | scalar read =>
      obtain ⟨left, read, tails⟩ := exists_readScalar same read
      exact ⟨left, .scalar read, tails⟩
  | string spells =>
      obtain ⟨more, rfl, tails⟩ := same.cons (by decide)
      obtain ⟨left, spells, behind⟩ := spells.exists_sameLines tails
      exact ⟨left, .string spells, behind⟩
  | noMembers close =>
      obtain ⟨more, rfl, tails⟩ := same.cons (by decide)
      obtain ⟨left, close, behind⟩ := exists_skipSpace tails (by decide) close
      exact ⟨left, .noMembers close, behind⟩
  | noItems close =>
      obtain ⟨more, rfl, tails⟩ := same.cons (by decide)
      obtain ⟨left, close, behind⟩ := exists_skipSpace tails (by decide) close
      exact ⟨left, .noItems close, behind⟩
  | object inside ih =>
      obtain ⟨more, rfl, tails⟩ := same.cons (by decide)
      obtain ⟨left, inside, behind⟩ := ih (skipSpace_sameLines tails)
      exact ⟨left, .object inside, behind⟩
  | array inside ih =>
      obtain ⟨more, rfl, tails⟩ := same.cons (by decide)
      obtain ⟨left, inside, behind⟩ := ih (skipSpace_sameLines tails)
      exact ⟨left, .array inside, behind⟩
  | lastMember name colon own close ih =>
      obtain ⟨more, rfl, tails⟩ := same.cons (by decide)
      obtain ⟨_, name, tails⟩ := name.exists_sameLines tails
      obtain ⟨_, colon, tails⟩ := exists_skipSpace tails (by decide) colon
      obtain ⟨_, own, tails⟩ := ih (skipSpace_sameLines tails)
      obtain ⟨left, close, behind⟩ := exists_skipSpace tails (by decide) close
      exact ⟨left, .lastMember name colon own close, behind⟩
  | nextMember name colon own comma others ih ihOthers =>
      obtain ⟨more, rfl, tails⟩ := same.cons (by decide)
      obtain ⟨_, name, tails⟩ := name.exists_sameLines tails
      obtain ⟨_, colon, tails⟩ := exists_skipSpace tails (by decide) colon
      obtain ⟨_, own, tails⟩ := ih (skipSpace_sameLines tails)
      obtain ⟨_, comma, tails⟩ := exists_skipSpace tails (by decide) comma
      obtain ⟨left, others, behind⟩ := ihOthers (skipSpace_sameLines tails)
      exact ⟨left, .nextMember name colon own comma others, behind⟩
  | lastItem own close ih =>
      obtain ⟨_, own, tails⟩ := ih same
      obtain ⟨left, close, behind⟩ := exists_skipSpace tails (by decide) close
      exact ⟨left, .lastItem own close, behind⟩
  | nextItem own comma others ih ihOthers =>
      obtain ⟨_, own, tails⟩ := ih same
      obtain ⟨_, comma, tails⟩ := exists_skipSpace tails (by decide) comma
      obtain ⟨left, others, behind⟩ := ihOthers (skipSpace_sameLines tails)
      exact ⟨left, .nextItem own comma others, behind⟩

theorem read_of_sameLines (same : SameLines s t) (h : read s = .ok value) :
    read t = .ok value := by
  obtain ⟨rest, holds, last⟩ := read_eq_ok_iff.mp h
  obtain ⟨left, held, tails⟩ := holds.exists_sameLines (skipSpace_sameLines same)
  exact read_eq_ok_iff.mpr ⟨left, held, (last ▸ skipSpace_sameLines tails).eq_nil⟩

/-- Texts of the same lines hold the same document, if one of them holds any. -/
theorem read_eq_ok_congr (same : SameLines s t) : read s = .ok value ↔ read t = .ok value :=
  ⟨read_of_sameLines same, read_of_sameLines same.symm⟩

end Json

end DesignTokens
