import DesignTokens.Proofs.Json.Reading

/-!
# What texts hold is a document

Whatever a text holds is a document: the names of each object are distinct, since a name that
is given twice keeps its last value, and whole numbers of too many digits are not read.
-/

namespace DesignTokens

/-- A step after another one gives a result only if both do. -/
theorem exists_of_bind_eq_ok {ε α β : Type} {x : Except ε α} {f : α → Except ε β} {result : β}
    (h : x >>= f = .ok result) : ∃ a, x = .ok a ∧ f a = .ok result := by
  cases x with
  | error fault => cases h
  | ok a => exact ⟨a, rfl, h⟩

namespace Number

/-- A whole number that is scanned has no more digits than its text. -/
theorem length_digitsOf_le_wholeDigits {s rest : List Char} {n : Int}
    (h : scan s = some (.integer n, rest)) : (digitsOf n.natAbs).length ≤ wholeDigits s := by
  rw [scan] at h
  rw [wholeDigits]
  cases front : scanWhole (spanMinus s).2 with
  | none => simp [front] at h
  | some found =>
      obtain ⟨digits, after⟩ := found
      obtain ⟨all, nonempty, _⟩ := of_scanWhole front
      simp only [front] at h
      have value : n = signed (spanMinus s).1 digits := by
        cases fraction : scanFraction after with
        | none =>
            rw [fraction] at h
            split at h <;> simp_all
        | some found =>
            simp only [fraction] at h
            split at h
            · simp at h
            · split at h <;> simp_all
      rw [value, natAbs_signed]
      exact length_digitsOf_digitsValue_le all nonempty

end Number

namespace Json

theorem IsDocument.cons {name : String} {value : Json} {rest : List (String × Json)}
    (fresh : name ∉ rest.map Prod.fst) (own : value.IsDocument)
    (others : (Json.object rest).IsDocument) :
    (Json.object ((name, value) :: rest)).IsDocument := by
  refine .object _ ⟨List.nodup_cons.mpr ⟨fresh, others.self.1⟩, trivial⟩ fun member mem => ?_
  rcases List.mem_cons.mp mem with rfl | mem
  · exact own
  · exact others.member member mem

/-- Named values of distinct names that are written as documents make a document. -/
theorem isDocument_mapValues {α : Type} {holds : String → α → Prop} {entries : Entries α}
    {write : α → Json} (collected : entries.Collected holds)
    (document : ∀ entry ∈ entries, (write entry.2).IsDocument) :
    (Json.object (entries.mapValues write)).IsDocument := by
  refine .object _ ⟨?_, trivial⟩ fun member mem => ?_
  · have same : (entries.mapValues write).map Prod.fst = entries.names :=
      Entries.names_mapValues write entries
    rw [NamesDistinct, same]
    exact collected.distinct
  · obtain ⟨entry, here, rfl⟩ := List.mem_map.mp mem
    exact document entry here

section Steps

variable {α β : Type} {x : Except Halt α}

theorem exists_of_map_eq_ok {f : α → β} {result : β} (h : x.map f = .ok result) :
    ∃ a, x = .ok a ∧ f a = result := by
  cases x with
  | error halt => cases h
  | ok a => exact ⟨a, rfl, Except.ok.inj h⟩

end Steps

theorem isDocument_of_readScalar {s rest : List Char} {value : Json}
    (h : readScalar s = .ok (value, rest)) : value.IsDocument := by
  unfold readScalar at h
  split at h
  case h_1 found literal =>
      cases h
      obtain ⟨⟨name, known⟩, mem, same⟩ := List.exists_of_findSome?_eq_some literal
      simp only [Option.ite_none_right_eq_some, Option.some.injEq, Prod.mk.injEq] at same
      obtain ⟨_, rfl, _⟩ := same
      simp only [literals, List.mem_cons, List.not_mem_nil, or_false, Prod.mk.injEq] at mem
      rcases mem with ⟨_, rfl⟩ | ⟨_, rfl⟩ | ⟨_, rfl⟩ | ⟨_, rfl⟩ | ⟨_, rfl⟩ | ⟨_, rfl⟩ <;>
        simp [IsDocument, NamesDistinct, NumberLimited, Number.Limited]
  case h_2 =>
      split at h
      case h_1 n after scanned =>
          simp only at h
          split at h
          case isTrue few =>
              cases h
              have limited := Nat.le_trans (Number.length_digitsOf_le_wholeDigits scanned) few
              exact .number _ ⟨trivial, limited⟩
          case isFalse => cases h
      case h_2 x after other scanned =>
          cases h
          cases x with
          | integer n => exact absurd rfl (other n)
          | real y => exact .number _ ⟨trivial, trivial⟩
      case h_3 => cases h

/-- The value that is read at a place is a document. -/
def ReadsDocuments (fuel : Nat) : Prop :=
  ∀ s value rest, readValue fuel s = .ok (value, rest) → value.IsDocument

/-- The items that are read at a place are documents. -/
def ReadsItems (fuel : Nat) : Prop :=
  ∀ s items rest, readItems fuel s = .ok (items, rest) → ∀ item ∈ items, item.IsDocument

/-- The values of the members that are read at a place are documents. -/
def ReadsMembers (fuel : Nat) : Prop :=
  ∀ s members rest, readMembers fuel s = .ok (members, rest) →
    ∀ member ∈ members, member.2.IsDocument

theorem readsItems_succ {fuel : Nat} (values : ReadsDocuments fuel) (others : ReadsItems fuel) :
    ReadsItems (fuel + 1) := by
  intro s items rest h
  rw [readItems] at h
  obtain ⟨⟨item, afterItem⟩, first, h⟩ := exists_of_bind_eq_ok h
  have own := values s item afterItem first
  simp only at h
  split at h
  case h_1 =>
      cases h
      simpa using own
  case h_2 =>
      obtain ⟨⟨tail, after⟩, later, h⟩ := exists_of_bind_eq_ok h
      cases h
      exact List.forall_mem_cons.mpr ⟨own, others _ tail after later⟩
  case h_3 => cases h

theorem readsMembers_succ {fuel : Nat} (values : ReadsDocuments fuel)
    (others : ReadsMembers fuel) : ReadsMembers (fuel + 1) := by
  intro s members rest h
  unfold readMembers at h
  split at h
  case h_2 => cases h
  case h_1 =>
      obtain ⟨⟨name, afterName⟩, _, h⟩ := exists_of_bind_eq_ok h
      simp only at h
      split at h
      case h_2 => cases h
      case h_1 afterColon _ =>
          obtain ⟨⟨value, afterValue⟩, first, h⟩ := exists_of_bind_eq_ok h
          have own := values _ value afterValue first
          simp only at h
          split at h
          case h_1 =>
              cases h
              simpa using own
          case h_2 =>
              obtain ⟨⟨tail, after⟩, later, h⟩ := exists_of_bind_eq_ok h
              cases h
              exact List.forall_mem_cons.mpr ⟨own, others _ tail after later⟩
          case h_3 => cases h

theorem readsDocuments_succ {fuel : Nat} (members : ReadsMembers fuel) (items : ReadsItems fuel) :
    ReadsDocuments (fuel + 1) := by
  intro s value rest h
  unfold readValue at h
  split at h
  case h_1 =>
      obtain ⟨_, _, same⟩ := exists_of_map_eq_ok h
      cases same
      exact .string _ ⟨trivial, trivial⟩
  case h_2 =>
      split at h
      case h_1 =>
          cases h
          exact isDocument_empty
      case h_2 =>
          obtain ⟨⟨pairs, after⟩, found, same⟩ := exists_of_map_eq_ok h
          cases same
          have collected : (Entries.ofPairs pairs).Collected fun _ value => value.IsDocument :=
            Entries.collected_ofPairs (members _ pairs _ found)
          exact .object _ ⟨collected.distinct, trivial⟩ collected.each
  case h_3 =>
      split at h
      case h_1 =>
          cases h
          exact .array _ ⟨trivial, trivial⟩ fun _ mem => absurd mem List.not_mem_nil
      case h_2 =>
          obtain ⟨⟨list, after⟩, found, same⟩ := exists_of_map_eq_ok h
          cases same
          exact .array _ ⟨trivial, trivial⟩ (items _ list _ found)
  case h_4 => exact isDocument_of_readScalar h

/-- What is read at any depth is a document. -/
theorem readsDocuments (fuel : Nat) :
    ReadsDocuments fuel ∧ ReadsMembers fuel ∧ ReadsItems fuel := by
  induction fuel with
  | zero =>
      refine ⟨?_, ?_, ?_⟩ <;>
        · intro s found rest h
          cases h
  | succ fuel ih =>
      obtain ⟨values, members, items⟩ := ih
      exact ⟨readsDocuments_succ members items, readsMembers_succ values members,
        readsItems_succ values items⟩

/-- A text holds a document. -/
theorem isDocument_of_read {text : List Char} {value : Json} (h : read text = .ok value) :
    value.IsDocument := by
  unfold read at h
  split at h
  case h_2 => cases h
  case h_1 held =>
      cases h
      unfold readDocument at held
      split at held
      case h_1 => cases held
      case h_2 =>
          obtain ⟨⟨found, after⟩, first, held⟩ := exists_of_bind_eq_ok held
          simp only at held
          split at held
          case h_1 =>
              cases held
              exact (readsDocuments _).1 _ _ after first
          case h_2 => cases held

end Json

end DesignTokens
