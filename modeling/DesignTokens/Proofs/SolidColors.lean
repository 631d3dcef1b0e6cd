import DesignTokens.Proofs.Key.Boundaries
import DesignTokens.Proofs.StoredTokens
import Mathlib.Data.List.DropRight

/-!
# Solid colors

A solid color has an alpha channel that says that it covers what is below it. Cleaning takes this
channel away and leaves every other text as it is, but for one: a solid color with a line feed
behind it is none, and loses its alpha channel and the line feed.

-/

namespace DesignTokens.Color

/-- The hexadecimal digits in either case. -/
def hexAlphabet : List Char :=
  ['0', '1', '2', '3', '4', '5', '6', '7', '8', '9', 'a', 'b', 'c', 'd', 'e', 'f',
    'A', 'B', 'C', 'D', 'E', 'F']

/-- Six hexadecimal digits and a full alpha channel. -/
structure FullAlpha (digits alpha : List Char) : Prop where
  six : digits.length = 6
  hex : ∀ c ∈ digits, c ∈ hexAlphabet
  two : alpha.length = 2
  full : ∀ c ∈ alpha, c = 'f' ∨ c = 'F'

/-- A color with a full alpha channel, with or without a mark in front of it. -/
def IsSolid (value : List Char) : Prop :=
  ∃ mark digits alpha, (mark = [] ∨ mark = ['#']) ∧ FullAlpha digits alpha ∧
    value = mark ++ (digits ++ alpha)

/-- A solid color with a line feed behind it. -/
def FeedEnded (value : List Char) : Prop :=
  ∃ color, IsSolid color ∧ value = color ++ ['\n']

variable {value color body : List Char}

theorem isHexDigit_iff {c : Char} : Text.isHexDigit c = true ↔ c ∈ hexAlphabet := by
  have all : ∀ c : Char, c.toNat < 0x80 → Text.isHexDigit c = true → c ∈ hexAlphabet :=
    Key.forall_ascii (by decide +kernel)
  constructor
  · intro hex
    have ascii : c.toNat < 0x80 := by
      by_contra wide
      have past : ∀ last : Char, last.toNat < 0x80 → ¬c ≤ last := by
        intro last small below
        have order : c.toNat ≤ last.toNat := below
        omega
      have none : Text.hexValue? c = none := by
        simp only [Text.hexValue?, past '9' (by decide), past 'f' (by decide),
          past 'F' (by decide), and_false, if_false]
      rw [Text.isHexDigit, none] at hex
      cases hex
    exact all c ascii hex
  · have digits : hexAlphabet.all Text.isHexDigit = true := by decide +kernel
    exact fun mem => List.all_eq_true.mp digits c mem

section SolidDigits

/-- What is asked of the characters behind the mark. -/
theorem fullAlpha_take_drop_iff :
    FullAlpha (body.take 6) (body.drop 6) ↔
      (body.take 6).length = 6 ∧ (body.take 6).all Text.isHexDigit ∧ (body.drop 6).length = 2 ∧
        (body.drop 6).all (fun c => c == 'f' || c == 'F') := by
  have hex : (body.take 6).all Text.isHexDigit = true ↔ ∀ c ∈ body.take 6, c ∈ hexAlphabet :=
    List.all_eq_true.trans (forall₂_congr fun _ _ => isHexDigit_iff)
  have full : (body.drop 6).all (fun c => c == 'f' || c == 'F') = true ↔
      ∀ c ∈ body.drop 6, c = 'f' ∨ c = 'F' := by
    simp only [List.all_eq_true, Bool.or_eq_true, beq_iff_eq]
  rw [hex, full]
  exact ⟨fun alpha => ⟨alpha.six, alpha.hex, alpha.two, alpha.full⟩,
    fun ⟨six, hex, two, full⟩ => ⟨six, hex, two, full⟩⟩

theorem exists_fullAlpha_iff :
    (∃ digits alpha, FullAlpha digits alpha ∧ body = digits ++ alpha) ↔
      FullAlpha (body.take 6) (body.drop 6) := by
  constructor
  · rintro ⟨digits, alpha, parts, rfl⟩
    rwa [List.take_left' parts.six, List.drop_left' parts.six]
  · intro parts
    exact ⟨_, _, parts, (List.take_append_drop 6 body).symm⟩

/-- The mark is no digit, so it is told apart from the digits. -/
theorem isSolid_mark_iff : IsSolid ('#' :: body) ↔ FullAlpha (body.take 6) (body.drop 6) := by
  rw [← exists_fullAlpha_iff]
  constructor
  · rintro ⟨mark, digits, alpha, rfl | rfl, parts, spelled⟩
    · obtain ⟨first, rest, rfl⟩ := List.exists_cons_of_length_eq_add_one parts.six
      obtain rfl := (List.cons.inj spelled).1
      exact absurd (parts.hex '#' List.mem_cons_self) (by decide)
    · exact ⟨digits, alpha, parts, (List.cons.inj spelled).2⟩
  · rintro ⟨digits, alpha, parts, rfl⟩
    exact ⟨['#'], digits, alpha, .inr rfl, parts, rfl⟩

theorem isSolid_iff_of_unmarked (unmarked : ∀ rest, value ≠ '#' :: rest) :
    IsSolid value ↔ FullAlpha (value.take 6) (value.drop 6) := by
  rw [← exists_fullAlpha_iff]
  constructor
  · rintro ⟨mark, digits, alpha, rfl | rfl, parts, spelled⟩
    · exact ⟨digits, alpha, parts, spelled⟩
    · exact absurd spelled (unmarked _)
  · rintro ⟨digits, alpha, parts, spelled⟩
    exact ⟨[], digits, alpha, .inl rfl, parts, spelled⟩

/-- The digits of exactly the solid colors are found, with the mark in front of them. -/
theorem solidDigits?_eq_some_iff :
    solidDigits? value = some color ↔ IsSolid value ∧ color = value.rdrop 2 := by
  have front : ∀ body : List Char, (body.drop 6).length = 2 → body.rdrop 2 = body.take 6 := by
    intro body two
    rw [List.rdrop]
    congr 1
    rw [List.length_drop] at two
    omega
  unfold solidDigits?
  split
  rename_i mark body cut
  split at cut
  case h_1 rest =>
      obtain ⟨rfl, rfl⟩ := Prod.mk.inj cut
      rw [isSolid_mark_iff, fullAlpha_take_drop_iff, Option.ite_none_right_eq_some,
        Option.some.injEq]
      refine and_congr_right fun found => ?_
      have marked : List.rdrop ('#' :: rest) 2 = '#' :: rest.rdrop 2 := by
        have long := found.2.2.1
        rw [List.length_drop] at long
        rw [List.rdrop, List.rdrop, List.length_cons, Nat.succ_sub (by omega), List.take_succ_cons]
      rw [marked, front rest found.2.2.1]
      exact eq_comm
  case h_2 unmarked =>
      obtain ⟨rfl, rfl⟩ := Prod.mk.inj cut
      rw [isSolid_iff_of_unmarked unmarked, fullAlpha_take_drop_iff, Option.ite_none_right_eq_some,
        Option.some.injEq]
      refine and_congr_right fun found => ?_
      rw [front value found.2.2.1]
      exact eq_comm

theorem length_of_isSolid (solid : IsSolid value) : 8 ≤ value.length :=
  (length_of_solidDigits? (solidDigits?_eq_some_iff.mpr ⟨solid, rfl⟩)).1

/-- No solid color ends with a line feed. -/
theorem not_isSolid_concat_feed : ¬IsSolid (color ++ ['\n']) := by
  rintro ⟨mark, digits, alpha, -, parts, spelled⟩
  obtain ⟨first, second, rfl⟩ := List.length_eq_two.mp parts.two
  obtain rfl : '\n' = second := by
    have ends := congrArg List.getLast? spelled
    rw [← List.append_assoc, List.getLast?_concat] at ends
    simpa using ends
  exact absurd (parts.full '\n' (List.mem_cons_of_mem _ List.mem_cons_self)) (by decide)

end SolidDigits

section Clean

variable {text : String}

theorem withoutFinalFeed_concat (front : List Char) :
    withoutFinalFeed (front ++ ['\n']) = front := by
  rw [withoutFinalFeed, if_pos List.getLast?_concat, List.dropLast_concat]

/-- What is cleaned is solid, or it is without the line feed that ends it. -/
theorem isSolid_withoutFinalFeed_iff :
    IsSolid (withoutFinalFeed value) ↔ IsSolid value ∨ FeedEnded value := by
  unfold withoutFinalFeed
  split
  case isTrue last =>
      obtain ⟨front, rfl⟩ := List.getLast?_eq_some_iff.mp last
      rw [List.dropLast_concat]
      constructor
      · exact fun solid => .inr ⟨front, solid, rfl⟩
      · rintro (solid | ⟨color, solid, spelled⟩)
        · exact absurd solid not_isSolid_concat_feed
        · rwa [List.append_cancel_right spelled]
  case isFalse last =>
      refine ⟨.inl, fun found => found.resolve_right ?_⟩
      rintro ⟨color, -, rfl⟩
      exact last List.getLast?_concat

theorem clean_of_isSolid (solid : IsSolid text.toList) :
    clean text = String.ofList (text.toList.rdrop 2) := by
  have same : withoutFinalFeed text.toList = text.toList := by
    refine if_neg fun last => ?_
    obtain ⟨front, spelled⟩ := List.getLast?_eq_some_iff.mp last
    exact not_isSolid_concat_feed (spelled ▸ solid)
  have found := solidDigits?_eq_some_iff.mpr ⟨solid, rfl⟩
  simp only [clean, same, found]

theorem clean_of_feedEnded (ended : FeedEnded text.toList) :
    clean text = String.ofList (text.toList.rdrop 3) := by
  obtain ⟨color, solid, spelled⟩ := ended
  have found := solidDigits?_eq_some_iff.mpr ⟨solid, rfl⟩
  simp only [clean, spelled, withoutFinalFeed_concat, found, List.rdrop_concat_succ]

theorem clean_of_not (other : ¬(IsSolid text.toList ∨ FeedEnded text.toList)) :
    clean text = text := by
  have none : solidDigits? (withoutFinalFeed text.toList) = none := by
    rw [Option.eq_none_iff_forall_ne_some]
    intro color found
    exact other (isSolid_withoutFinalFeed_iff.mp (solidDigits?_eq_some_iff.mp found).1)
  simp only [clean, none]

/-- Cleaning takes the last two characters of exactly the solid colors, unless the text is a solid
color with a line feed behind it: this loses three. A clean color stays as it is in any case. -/
theorem clean_strips_solid_iff (text : String) :
    ((IsSolid text.toList → clean text = String.ofList (text.toList.rdrop 2)) ∧
      (¬IsSolid text.toList → clean text = text) ↔ ¬FeedEnded text.toList) ∧
    (FeedEnded text.toList → clean text = String.ofList (text.toList.rdrop 3)) ∧
    clean (clean text) = clean text := by
  refine ⟨⟨fun strips ended => ?_, fun whole => ⟨clean_of_isSolid, fun other => ?_⟩⟩,
    clean_of_feedEnded, clean_clean text⟩
  · obtain ⟨color, solid, spelled⟩ := ended
    have other : ¬IsSolid text.toList := spelled ▸ not_isSolid_concat_feed
    have kept := congrArg String.toList (strips.2 other)
    rw [clean_of_feedEnded ⟨color, solid, spelled⟩, String.toList_ofList] at kept
    have shorter := congrArg List.length kept
    have long := length_of_isSolid solid
    rw [List.rdrop, List.length_take, spelled, List.length_append, List.length_singleton] at shorter
    omega
  · exact clean_of_not fun found => found.elim other whole

/-- A solid color with a line feed behind it is no solid color, and is not kept. -/
theorem clean_feedEndedColor :
    ¬IsSolid "#3366FFff\n".toList ∧ clean "#3366FFff\n" = "#3366FF" ∧
    ¬∀ text : String, ¬IsSolid text.toList → clean text = text := by
  have spelled : "#3366FFff\n".toList = "#3366FFff".toList ++ ['\n'] := by decide +kernel
  have other : ¬IsSolid "#3366FFff\n".toList := spelled ▸ not_isSolid_concat_feed
  have cleaned : clean "#3366FFff\n" = "#3366FF" := by decide +kernel
  refine ⟨other, cleaned, fun all => ?_⟩
  have kept := all "#3366FFff\n" other
  rw [cleaned] at kept
  exact absurd kept (by decide)

end Clean

end DesignTokens.Color
