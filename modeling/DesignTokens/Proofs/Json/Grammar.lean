import DesignTokens.Proofs.Json.Spelling
import DesignTokens.Proofs.Number.Leftover

/-!
# The grammar of documents

What a text holds is said by a grammar that knows of no bound on the depth: white space stands
around every part, and what is left behind a piece is an end of the text. The reader reads exactly
what the grammar says, and it never runs out of steps.
-/

namespace DesignTokens.Json

/-- What the reader reads in one go. -/
inductive Piece
  | value (value : Json)
  | members (members : List (String × Json))
  | items (items : List Json)

/-- A text starts with a piece of a document, behind which a rest stands. -/
inductive Holds : List Char → Piece → List Char → Prop
  | scalar {s rest : List Char} {value : Json} (read : readScalar s = .ok (value, rest)) :
      Holds s (.value value) rest
  | string {s cs rest : List Char} (spells : Spells s cs rest) :
      Holds ('"' :: s) (.value (.string (String.ofList cs))) rest
  | noMembers {s rest : List Char} (close : skipSpace s = '\x7d' :: rest) :
      Holds ('\x7b' :: s) (.value (.object [])) rest
  | object {s rest : List Char} {members : List (String × Json)}
      (inside : Holds (skipSpace s) (.members members) rest) :
      Holds ('\x7b' :: s) (.value (.object (Entries.ofPairs members))) rest
  | noItems {s rest : List Char} (close : skipSpace s = ']' :: rest) :
      Holds ('[' :: s) (.value (.array [])) rest
  | array {s rest : List Char} {items : List Json}
      (inside : Holds (skipSpace s) (.items items) rest) :
      Holds ('[' :: s) (.value (.array items)) rest
  | lastMember {s cs afterName afterColon afterValue rest : List Char} {value : Json}
      (name : Spells s cs afterName) (colon : skipSpace afterName = ':' :: afterColon)
      (own : Holds (skipSpace afterColon) (.value value) afterValue)
      (close : skipSpace afterValue = '\x7d' :: rest) :
      Holds ('"' :: s) (.members [(String.ofList cs, value)]) rest
  | nextMember {s cs afterName afterColon afterValue more rest : List Char} {value : Json}
      {members : List (String × Json)} (name : Spells s cs afterName)
      (colon : skipSpace afterName = ':' :: afterColon)
      (own : Holds (skipSpace afterColon) (.value value) afterValue)
      (comma : skipSpace afterValue = ',' :: more)
      (others : Holds (skipSpace more) (.members members) rest) :
      Holds ('"' :: s) (.members ((String.ofList cs, value) :: members)) rest
  | lastItem {s afterItem rest : List Char} {item : Json} (own : Holds s (.value item) afterItem)
      (close : skipSpace afterItem = ']' :: rest) : Holds s (.items [item]) rest
  | nextItem {s afterItem more rest : List Char} {item : Json} {items : List Json}
      (own : Holds s (.value item) afterItem) (comma : skipSpace afterItem = ',' :: more)
      (others : Holds (skipSpace more) (.items items) rest) : Holds s (.items (item :: items)) rest

variable {s text rest : List Char} {value : Json} {piece : Piece} {fuel : Nat}

section Suffix

theorem suffix_skipSpace (s : List Char) : skipSpace s <:+ s :=
  List.dropWhile_suffix isSpace

/-- Behind a mark, an end of the text goes on. -/
theorem suffix_of_skipSpace {c : Char} (mark : skipSpace s = c :: rest) : rest <:+ s :=
  (List.suffix_cons c rest).trans (mark ▸ suffix_skipSpace s)

theorem suffix_readLiteral? (h : readLiteral? s = some (value, rest)) : rest <:+ s := by
  obtain ⟨⟨name, known⟩, _, found⟩ := List.exists_of_findSome?_eq_some h
  simp only [Option.ite_none_right_eq_some, Option.some.injEq, Prod.mk.injEq] at found
  obtain ⟨_, _, rfl⟩ := found
  exact List.drop_suffix _ _

theorem suffix_readScalar (h : readScalar s = .ok (value, rest)) : rest <:+ s := by
  unfold readScalar at h
  split at h
  case h_1 literal =>
      cases h
      exact suffix_readLiteral? literal
  case h_2 =>
      split at h
      case h_1 scanned =>
          simp only at h
          split at h
          · cases h
            exact Number.suffix_scan scanned
          · cases h
      case h_2 scanned =>
          cases h
          exact Number.suffix_scan scanned
      case h_3 => cases h

/-- What is left behind a piece is an end of the text. -/
theorem Holds.suffix (holds : Holds s piece rest) : rest <:+ s := by
  induction holds with
  | scalar read => exact suffix_readScalar read
  | string spells => exact spells.suffix.trans (List.suffix_cons _ _)
  | noMembers close => exact (suffix_of_skipSpace close).trans (List.suffix_cons _ _)
  | noItems close => exact (suffix_of_skipSpace close).trans (List.suffix_cons _ _)
  | object inside ih | array inside ih =>
      exact ih.trans ((suffix_skipSpace _).trans (List.suffix_cons _ _))
  | lastMember name colon own close ih =>
      have behind := (suffix_of_skipSpace close).trans (ih.trans (suffix_skipSpace _))
      exact behind.trans ((suffix_of_skipSpace colon).trans
        (name.suffix.trans (List.suffix_cons _ _)))
  | nextMember name colon own comma others ih ihOthers =>
      have behind := (suffix_of_skipSpace comma).trans (ih.trans (suffix_skipSpace _))
      exact (ihOthers.trans (suffix_skipSpace _)).trans (behind.trans
        ((suffix_of_skipSpace colon).trans (name.suffix.trans (List.suffix_cons _ _))))
  | lastItem own close ih => exact (suffix_of_skipSpace close).trans ih
  | nextItem own comma others ih ihOthers =>
      exact (ihOthers.trans (suffix_skipSpace _)).trans ((suffix_of_skipSpace comma).trans ih)

end Suffix

namespace Piece

/-- A piece is read in at most so many steps, with a rest left over. -/
def ReadIn (fuel : Nat) (s rest : List Char) : Piece → Prop
  | .value found => readValue fuel s = .ok (found, rest)
  | .members found => readMembers fuel s = .ok (found, rest)
  | .items found => readItems fuel s = .ok (found, rest)

/-- As many steps as the pieces of one kind take at most at the start of a text. -/
def steps (s : List Char) : Piece → Nat
  | .value _ | .members _ => 2 * s.length + 1
  | .items _ => 2 * s.length + 2

theorem exists_fuel (enough : piece.steps s ≤ fuel) : ∃ less, fuel = less + 1 := by
  refine Nat.exists_eq_add_one.mpr (Nat.lt_of_lt_of_le ?_ enough)
  cases piece <;> exact Nat.succ_pos _

end Piece

section Reading

theorem holds_of_readValue
    (inMembers : ∀ s members rest, readMembers fuel s = .ok (members, rest) →
      Holds s (.members members) rest)
    (inItems : ∀ s items rest, readItems fuel s = .ok (items, rest) → Holds s (.items items) rest)
    (read : readValue (fuel + 1) s = .ok (value, rest)) : Holds s (.value value) rest := by
  unfold readValue at read
  split at read
  case h_1 =>
      obtain ⟨⟨cs, after⟩, chars, same⟩ := exists_of_map_eq_ok read
      cases same
      exact .string (readChars_eq_ok_iff.mp chars)
  case h_2 =>
      split at read
      case h_1 close =>
          cases read
          exact .noMembers close
      case h_2 =>
          obtain ⟨⟨members, after⟩, found, same⟩ := exists_of_map_eq_ok read
          cases same
          exact .object (inMembers _ members _ found)
  case h_3 =>
      split at read
      case h_1 close =>
          cases read
          exact .noItems close
      case h_2 =>
          obtain ⟨⟨items, after⟩, found, same⟩ := exists_of_map_eq_ok read
          cases same
          exact .array (inItems _ items _ found)
  case h_4 => exact .scalar read

theorem holds_of_readMembers
    (inValue : ∀ s value rest, readValue fuel s = .ok (value, rest) → Holds s (.value value) rest)
    (inMembers : ∀ s members rest, readMembers fuel s = .ok (members, rest) →
      Holds s (.members members) rest)
    {members : List (String × Json)} (read : readMembers (fuel + 1) s = .ok (members, rest)) :
    Holds s (.members members) rest := by
  unfold readMembers at read
  split at read
  case h_2 => cases read
  case h_1 =>
      obtain ⟨⟨name, afterName⟩, chars, read⟩ := exists_of_bind_eq_ok read
      have spells := readChars_eq_ok_iff.mp chars
      simp only at read
      split at read
      case h_2 => cases read
      case h_1 colon =>
          obtain ⟨⟨value, afterValue⟩, first, read⟩ := exists_of_bind_eq_ok read
          have own := inValue _ value afterValue first
          simp only at read
          split at read
          case h_1 close =>
              cases read
              exact .lastMember spells colon own close
          case h_2 comma =>
              obtain ⟨⟨others, after⟩, later, read⟩ := exists_of_bind_eq_ok read
              cases read
              exact .nextMember spells colon own comma (inMembers _ others after later)
          case h_3 => cases read

theorem holds_of_readItems
    (inValue : ∀ s value rest, readValue fuel s = .ok (value, rest) → Holds s (.value value) rest)
    (inItems : ∀ s items rest, readItems fuel s = .ok (items, rest) → Holds s (.items items) rest)
    {items : List Json} (read : readItems (fuel + 1) s = .ok (items, rest)) :
    Holds s (.items items) rest := by
  rw [readItems] at read
  obtain ⟨⟨item, afterItem⟩, first, read⟩ := exists_of_bind_eq_ok read
  have own := inValue s item afterItem first
  simp only at read
  split at read
  case h_1 close =>
      cases read
      exact .lastItem own close
  case h_2 comma =>
      obtain ⟨⟨others, after⟩, later, read⟩ := exists_of_bind_eq_ok read
      cases read
      exact .nextItem own comma (inItems _ others after later)
  case h_3 => cases read

/-- What is read, in any number of steps, stands there. -/
theorem holds_of_readIn (read : piece.ReadIn fuel s rest) : Holds s piece rest := by
  have each : (∀ s value rest, readValue fuel s = .ok (value, rest) →
      Holds s (.value value) rest) ∧
      (∀ s members rest, readMembers fuel s = .ok (members, rest) →
        Holds s (.members members) rest) ∧
      ∀ s items rest, readItems fuel s = .ok (items, rest) → Holds s (.items items) rest := by
    clear read
    induction fuel with
    | zero =>
        refine ⟨?_, ?_, ?_⟩ <;>
          · intro s found rest read
            cases read
    | succ fuel ih =>
        obtain ⟨inValue, inMembers, inItems⟩ := ih
        exact ⟨fun _ _ _ => holds_of_readValue inMembers inItems,
          fun _ _ _ => holds_of_readMembers inValue inMembers,
          fun _ _ _ => holds_of_readItems inValue inItems⟩
  cases piece with
  | value value => exact each.1 _ _ _ read
  | members members => exact each.2.1 _ _ _ read
  | items items => exact each.2.2 _ _ _ read

/-- What stands there is read. -/
theorem Holds.readIn (holds : Holds s piece rest) (enough : piece.steps s ≤ fuel) :
    piece.ReadIn fuel s rest := by
  induction holds generalizing fuel with
  | scalar read =>
      obtain ⟨fuel, rfl⟩ := Piece.exists_fuel enough
      exact readValue_of_readScalar read
  | string spells =>
      obtain ⟨fuel, rfl⟩ := Piece.exists_fuel enough
      rw [Piece.ReadIn, readValue, readChars_eq_ok_iff.mpr spells]
      rfl
  | noMembers close =>
      obtain ⟨fuel, rfl⟩ := Piece.exists_fuel enough
      simp [Piece.ReadIn, readValue, close]
  | noItems close =>
      obtain ⟨fuel, rfl⟩ := Piece.exists_fuel enough
      simp [Piece.ReadIn, readValue, close]
  | @object s rest members inside ih =>
      obtain ⟨fuel, rfl⟩ := Piece.exists_fuel enough
      have shorter := (suffix_skipSpace s).length_le
      refine readValue_object rfl (ih ?_)
      simp only [Piece.steps, List.length_cons] at enough ⊢
      omega
  | @array s rest items inside ih =>
      obtain ⟨fuel, rfl⟩ := Piece.exists_fuel enough
      have shorter := (suffix_skipSpace s).length_le
      refine readValue_array rfl (ih ?_)
      simp only [Piece.steps, List.length_cons] at enough ⊢
      omega
  | @lastMember s cs afterName afterColon afterValue rest value name colon own close ih =>
      obtain ⟨fuel, rfl⟩ := Piece.exists_fuel enough
      have shorter := ((suffix_skipSpace afterColon).trans
        ((suffix_of_skipSpace colon).trans name.suffix)).length_le
      have first : readValue fuel (skipSpace afterColon) = .ok (value, afterValue) := by
        apply ih
        simp only [Piece.steps, List.length_cons] at enough ⊢
        omega
      simp [Piece.ReadIn, readMembers, readChars_eq_ok_iff.mpr name, colon, first, close, bind,
        Except.bind]
  | @nextMember s cs afterName afterColon afterValue more rest value members name colon own comma
      others ih ihOthers =>
      obtain ⟨fuel, rfl⟩ := Piece.exists_fuel enough
      have inside := (suffix_skipSpace afterColon).trans
        ((suffix_of_skipSpace colon).trans name.suffix)
      have shorter := inside.length_le
      have shorterStill := ((suffix_skipSpace more).trans
        ((suffix_of_skipSpace comma).trans (own.suffix.trans inside))).length_le
      have first : readValue fuel (skipSpace afterColon) = .ok (value, afterValue) := by
        apply ih
        simp only [Piece.steps, List.length_cons] at enough ⊢
        omega
      have later : readMembers fuel (skipSpace more) = .ok (members, rest) := by
        apply ihOthers
        simp only [Piece.steps, List.length_cons] at enough ⊢
        omega
      simp [Piece.ReadIn, readMembers, readChars_eq_ok_iff.mpr name, colon, first, comma, later,
        bind, Except.bind]
  | @lastItem s afterItem rest item own close ih =>
      obtain ⟨fuel, rfl⟩ := Piece.exists_fuel enough
      have first : readValue fuel s = .ok (item, afterItem) := by
        apply ih
        simp only [Piece.steps] at enough ⊢
        omega
      simp [Piece.ReadIn, readItems, first, close, bind, Except.bind]
  | @nextItem s afterItem more rest item items own comma others ih ihOthers =>
      obtain ⟨fuel, rfl⟩ := Piece.exists_fuel enough
      have first : readValue fuel s = .ok (item, afterItem) := by
        apply ih
        simp only [Piece.steps] at enough ⊢
        omega
      have marked := (comma ▸ suffix_skipSpace afterItem).length_le
      have shorter := (suffix_skipSpace more).length_le
      have within := own.suffix.length_le
      have later : readItems fuel (skipSpace more) = .ok (items, rest) := by
        apply ihOthers
        simp only [Piece.steps, List.length_cons] at enough marked ⊢
        omega
      simp [Piece.ReadIn, readItems, first, comma, later, bind, Except.bind]

/-- A text is read as a value exactly if it holds the value with nothing but white space around
it. -/
theorem read_eq_ok_iff : read text = .ok value ↔
    ∃ rest, Holds (skipSpace text) (.value value) rest ∧ skipSpace rest = [] := by
  constructor
  · intro h
    unfold read at h
    split at h
    case h_2 => cases h
    case h_1 document =>
        cases h
        unfold readDocument at document
        split at document
        case h_1 => cases document
        case h_2 =>
            obtain ⟨⟨found, rest⟩, first, document⟩ := exists_of_bind_eq_ok document
            simp only at document
            split at document
            case h_1 last =>
                cases document
                have holds : Holds (skipSpace text) (.value value) rest :=
                  holds_of_readIn (show Piece.ReadIn _ _ _ (.value value) from first)
                exact ⟨rest, holds, last⟩
            case h_2 => cases document
  · rintro ⟨rest, holds, last⟩
    have shorter := (suffix_skipSpace text).length_le
    have first : readValue (2 * text.length + 2) (skipSpace text) = .ok (value, rest) := by
      apply holds.readIn
      simp only [Piece.steps]
      omega
    obtain ⟨c, tail, same, _, _, mark⟩ := readValue_start first
    have whole : readDocument text = .ok value := by
      unfold readDocument
      split
      case h_1 more =>
          rw [skipSpace_of_not_space (by decide)] at same
          exact absurd (List.cons.inj same).1.symm mark
      case h_2 => simp [first, last, bind, Except.bind]
    rw [read, whole]

end Reading

end DesignTokens.Json
