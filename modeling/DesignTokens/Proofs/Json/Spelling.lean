import DesignTokens.Proofs.Json.Documents
import Mathlib.Data.List.Infix

/-!
# Spelled strings

A string is spelled by characters that stand for themselves, escapes of one character, escapes of
one code unit and escapes of a surrogate pair, up to a closing quote. The reader reads exactly what
is spelled.

## Implementation notes

The reader looks ahead for the second half of a pair. What it looks for is named here, so that the
two kinds of code units exclude each other.

-/

namespace DesignTokens.Json

/-- The second half of a surrogate pair that a text starts with, and what follows it. -/
def lowUnit? : List Char → Option (Nat × List Char)
  | '\\' :: 'u' :: e :: f :: g :: h :: after =>
    match Text.hexNumber? [e, f, g, h] with
    | some low => if isLowSurrogate low then some (low, after) else none
    | none => none
  | _ => none

/-- A text starts with the spelling of some characters and a quote, behind which a rest stands. -/
inductive Spells : List Char → List Char → List Char → Prop
  | close (rest : List Char) : Spells ('"' :: rest) [] rest
  | plain {c : Char} {s cs rest : List Char} (quote : c ≠ '"') (solidus : c ≠ '\\')
      (printable : 0x20 ≤ c.toNat) (tail : Spells s cs rest) : Spells (c :: s) (c :: cs) rest
  | escape {c d : Char} {s cs rest : List Char} (stands : escaped? c = some d)
      (tail : Spells s cs rest) : Spells ('\\' :: c :: s) (d :: cs) rest
  | unit {a b c d : Char} {unit : Nat} {s cs rest : List Char}
      (digits : Text.hexNumber? [a, b, c, d] = some unit)
      (single : isHighSurrogate unit = true → lowUnit? s = none) (tail : Spells s cs rest) :
      Spells ('\\' :: 'u' :: a :: b :: c :: d :: s) (unitChar unit :: cs) rest
  | pair {a b c d : Char} {high low : Nat} {s after cs rest : List Char}
      (digits : Text.hexNumber? [a, b, c, d] = some high) (first : isHighSurrogate high = true)
      (second : lowUnit? s = some (low, after)) (tail : Spells after cs rest) :
      Spells ('\\' :: 'u' :: a :: b :: c :: d :: s) (pairChar high low :: cs) rest

variable {start s cs rest after : List Char} {unit low : Nat}

theorem lowUnit?_eq_some_iff : lowUnit? s = some (low, after) ↔
    ∃ e f g h, s = '\\' :: 'u' :: e :: f :: g :: h :: after ∧
      Text.hexNumber? [e, f, g, h] = some low ∧ isLowSurrogate low = true := by
  constructor
  · intro found
    unfold lowUnit? at found
    split at found
    case h_1 e f g h behind =>
        split at found
        case h_1 value digits =>
            simp only [Option.ite_none_right_eq_some, Option.some.injEq, Prod.mk.injEq] at found
            obtain ⟨second, rfl, rfl⟩ := found
            exact ⟨e, f, g, h, rfl, digits, second⟩
        case h_2 => cases found
    case h_2 => cases found
  · rintro ⟨e, f, g, h, rfl, digits, second⟩
    rw [lowUnit?, digits]
    exact if_pos second

namespace Spells

theorem ne_nil (spells : Spells s cs rest) : s ≠ [] := by
  cases spells <;> exact List.cons_ne_nil _ _

/-- An escape of four digits does not end a text. -/
theorem ne_nil_of_unit {e f g h : Char}
    (spells : Spells ('\\' :: 'u' :: e :: f :: g :: h :: after) cs rest) : after ≠ [] := by
  cases spells with
  | plain quote solidus => exact absurd rfl solidus
  | escape stands => cases stands
  | unit digits single tail => exact tail.ne_nil
  | pair digits first second =>
      obtain ⟨_, _, _, _, rfl, _⟩ := lowUnit?_eq_some_iff.mp second
      exact List.cons_ne_nil _ _

theorem suffix (spells : Spells s cs rest) : rest <:+ s := by
  induction spells with
  | close rest => exact List.suffix_cons _ rest
  | plain quote solidus printable tail ih => exact ih.trans (List.suffix_cons _ _)
  | escape stands tail ih => exact ih.trans (List.suffix_append ['\\', _] _)
  | unit digits single tail ih => exact ih.trans (List.suffix_append ['\\', 'u', _, _, _, _] _)
  | pair digits first second tail ih =>
      obtain ⟨e, f, g, h, rfl, _⟩ := lowUnit?_eq_some_iff.mp second
      exact ih.trans (List.suffix_append ['\\', 'u', _, _, _, _, '\\', 'u', e, f, g, h] _)

end Spells

/-- The reader takes an escape for one code unit where no pair goes on. -/
theorem readChars_unit {a b c d : Char} (digits : Text.hexNumber? [a, b, c, d] = some unit)
    (single : isHighSurrogate unit = true → lowUnit? s = none) (more : s ≠ []) :
    readChars start ('\\' :: 'u' :: a :: b :: c :: d :: s) =
      (readChars start s).map fun found => (unitChar unit :: found.1, found.2) := by
  rw [readChars.eq_def]
  simp only [digits]
  split
  case h_1 absent => cases absent
  case h_2 => exact absurd rfl more
  case h_3 e f g h after found =>
      obtain rfl := Option.some.inj found
      split
      case h_1 low others =>
          split
          case isTrue pair =>
              simp only [Bool.and_eq_true] at pair
              have second : lowUnit? ('\\' :: 'u' :: e :: f :: g :: h :: after) =
                  some (low, after) :=
                lowUnit?_eq_some_iff.mpr ⟨e, f, g, h, rfl, others, pair.1.2⟩
              cases (single pair.1.1).symm.trans second
          case isFalse => rfl
      case h_2 => rfl
  case h_4 found _ _ =>
      obtain rfl := Option.some.inj found
      rfl

theorem readChars_of_spells (spells : Spells s cs rest) : readChars start s = .ok (cs, rest) := by
  induction spells with
  | close rest => rw [readChars]
  | plain quote solidus printable tail ih =>
      rw [readChars_plain quote solidus printable, ih]
      rfl
  | escape stands tail ih =>
      rw [readChars_escaped stands, ih]
      rfl
  | unit digits single tail ih =>
      rw [readChars_unit digits single tail.ne_nil, ih]
      rfl
  | pair digits first second tail ih =>
      obtain ⟨e, f, g, h, rfl, others, low⟩ := lowUnit?_eq_some_iff.mp second
      rw [readChars.eq_def]
      simp [digits, others, first, low, List.isEmpty_eq_false_iff.mpr tail.ne_nil, ih, Except.map]

theorem spells_of_readChars (read : readChars start s = .ok (cs, rest)) : Spells s cs rest := by
  fun_induction readChars start s generalizing cs with
  | case2 behind =>
      cases read
      exact .close _
  | case6 a b c d unit e f g h after digits low others pair ih =>
      obtain ⟨⟨found, left⟩, tail, same⟩ := exists_of_map_eq_ok read
      cases same
      simp only [Bool.and_eq_true] at pair
      exact .pair digits pair.1.1
        (lowUnit?_eq_some_iff.mpr ⟨e, f, g, h, rfl, others, pair.1.2⟩) (ih tail)
  | case7 a b c d unit e f g h after digits low others single ih =>
      obtain ⟨⟨found, left⟩, tail, same⟩ := exists_of_map_eq_ok read
      cases same
      refine .unit digits (fun first => ?_) (ih tail)
      rw [lowUnit?, others]
      refine if_neg fun second => single ?_
      simp [first, second, (ih tail).ne_nil_of_unit]
  | case8 a b c d unit e f g h after digits others ih =>
      obtain ⟨⟨found, left⟩, tail, same⟩ := exists_of_map_eq_ok read
      cases same
      refine .unit digits (fun _ => ?_) (ih tail)
      rw [lowUnit?, others]
  | case9 a b c d unit behind nonempty other digits ih =>
      obtain ⟨⟨found, left⟩, tail, same⟩ := exists_of_map_eq_ok read
      cases same
      refine .unit digits (fun _ => ?_) (ih tail)
      rw [Option.eq_none_iff_forall_ne_some]
      rintro ⟨low, after⟩ second
      obtain ⟨e, f, g, h, same, _⟩ := lowUnit?_eq_some_iff.mp second
      exact other e f g h after same
  | case11 c behind _ _ d stands ih =>
      obtain ⟨⟨found, left⟩, tail, same⟩ := exists_of_map_eq_ok read
      cases same
      exact .escape stands (ih tail)
  | case14 c behind quote ends _ _ escape printable ih =>
      obtain ⟨⟨found, left⟩, tail, same⟩ := exists_of_map_eq_ok read
      cases same
      have solidus : c ≠ '\\' := by
        intro same
        cases behind with
        | nil => exact ends same rfl
        | cons d more => exact escape d more same rfl
      exact .plain quote solidus (Nat.le_of_not_lt printable) (ih tail)
  | _ => cases read

/-- The characters of a string are read exactly if they are spelled. -/
theorem readChars_eq_ok_iff : readChars start s = .ok (cs, rest) ↔ Spells s cs rest :=
  ⟨spells_of_readChars, readChars_of_spells⟩

end DesignTokens.Json
