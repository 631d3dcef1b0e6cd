import DesignTokens.Text.CodeRange
import DesignTokens.Text.Case
import Mathlib.Data.List.Basic

/-!
# Images of the case mappings

The lower-case form of a character is in lower case already, and no form of a character that
stands inside a word has a separator of words in it. Both hold of every code point, also where the
form has several characters.

## Implementation notes

A run of a table is compared with a range or with another run by its two ends, and by parity where
capital and small letters alternate. The code points of a run are never listed.

-/

namespace DesignTokens.Text

namespace CaseRun

variable {run other : CaseRun} {code first last : Nat}

/-- The code point to which a run moves one of its own. -/
def image (run : CaseRun) (code : Nat) : Nat :=
  (code + run.shift).toNat

/-- The images of a run are code points of characters. -/
def IsValid (run : CaseRun) : Prop :=
  0 ≤ run.first + run.shift ∧
    (run.last + run.shift < 0xD800 ∨
      0xDFFF < run.first + run.shift ∧ run.last + run.shift < 0x110000)

instance (run : CaseRun) : Decidable run.IsValid :=
  inferInstanceAs (Decidable (_ ∧ _))

/-- Whether the images of a run lie outside a range. -/
def avoids (run : CaseRun) (first last : Nat) : Bool :=
  Nat.blt (run.image run.last) first || Nat.blt last (run.image run.first)

/-- Whether the images of a run are no code points of another one: they lie outside its ends, or
between its code points. -/
def misses (run other : CaseRun) : Bool :=
  run.avoids other.first other.last ||
    (other.step == 2 && (run.first == run.last || run.step == 2) &&
      (run.image run.first + other.first) % 2 == 1)

theorem covers_iff : run.covers code = true ↔
    (run.first ≤ code ∧ code ≤ run.last) ∧ (code - run.first) % run.step = 0 := by
  simp [covers]

/-- The images of a run lie between those of its ends. -/
theorem image_bounds (own : run.covers code = true) :
    run.image run.first ≤ run.image code ∧ run.image code ≤ run.image run.last := by
  have bounds := (covers_iff.mp own).1
  unfold image
  omega

theorem toNat_ofNat_image (valid : run.IsValid) (own : run.covers code = true) :
    (Char.ofNat (run.image code)).toNat = run.image code := by
  have bounds := (covers_iff.mp own).1
  have scalar : (run.image code).isValidChar := by
    unfold image
    obtain ⟨_, below | above⟩ := valid
    · exact Or.inl (by omega)
    · exact Or.inr (by omega)
  rw [Char.ofNat, dif_pos scalar]
  rfl

theorem outside_of_avoids (avoids : run.avoids first last = true)
    (own : run.covers code = true) : ¬(first ≤ run.image code ∧ run.image code ≤ last) := by
  have bounds := image_bounds own
  simp only [CaseRun.avoids, Bool.or_eq_true, Nat.blt_eq] at avoids
  omega

theorem not_covers_of_misses (valid : run.IsValid) (misses : run.misses other = true)
    (own : run.covers code = true) : other.covers (run.image code) = false := by
  rw [Bool.eq_false_iff, Ne, covers_iff]
  rintro ⟨inside, onStep⟩
  simp only [CaseRun.misses, Bool.or_eq_true, Bool.and_eq_true, beq_iff_eq] at misses
  rcases misses with avoids | ⟨⟨two, steps⟩, odd⟩
  · exact outside_of_avoids avoids own inside
  · -- the image has the other parity than the code points of the other run
    have low := valid.1
    obtain ⟨bounds, even⟩ := covers_iff.mp own
    rw [two] at onStep
    unfold image at odd inside onStep
    rcases steps with single | twice
    · omega
    · rw [twice] at even
      omega

end CaseRun

section Mapping

variable {runs : List CaseRun} {expansions : List (Nat × List Nat)} {c d : Char}

/-- What stands in the image of a character comes from an expansion or from a run, or the
character stays as it is. -/
theorem mem_mapCase (mem : d ∈ mapCase runs expansions c) :
    (∃ entry ∈ expansions, d ∈ entry.2.map Char.ofNat) ∨
    (∃ run ∈ runs, run.covers c.toNat = true ∧ d = Char.ofNat (run.image c.toNat)) ∨
    (d = c ∧ mapCase runs expansions c = [c]) := by
  cases entries : expansions.find? fun entry => entry.1 == c.toNat with
  | some entry =>
      rw [mapCase, entries] at mem
      exact Or.inl ⟨entry, List.mem_of_find?_eq_some entries, mem⟩
  | none =>
      cases moves : runs.find? fun run => run.covers c.toNat with
      | some run =>
          have own : run.covers c.toNat = true := by simpa using List.find?_some moves
          rw [mapCase, entries, moves] at mem
          exact Or.inr (Or.inl ⟨run, List.mem_of_find?_eq_some moves, own,
            List.mem_singleton.mp mem⟩)
      | none =>
          have still : mapCase runs expansions c = [c] := by rw [mapCase, entries, moves]
          rw [still] at mem
          exact Or.inr (Or.inr ⟨List.mem_singleton.mp mem, still⟩)

/-- A character that no entry of the tables is about stays as it is. -/
theorem mapCase_of_uncovered (unexpanded : ∀ entry ∈ expansions, entry.1 ≠ c.toNat)
    (uncovered : ∀ run ∈ runs, run.covers c.toNat = false) : mapCase runs expansions c = [c] := by
  have entries : expansions.find? (fun entry => entry.1 == c.toNat) = none := by
    rw [List.find?_eq_none]
    intro entry mem
    simpa using unexpanded entry mem
  have moves : runs.find? (fun run => run.covers c.toNat) = none := by
    rw [List.find?_eq_none]
    intro run mem
    simp [uncovered run mem]
  rw [mapCase, entries, moves]

theorem mapCase_ne_nil (full : ∀ entry ∈ expansions, entry.2 ≠ []) (c : Char) :
    mapCase runs expansions c ≠ [] := by
  unfold mapCase
  split
  case h_1 entry found => simpa using full entry (List.mem_of_find?_eq_some found)
  case h_2 => split <;> exact List.cons_ne_nil _ _

end Mapping

section Lower

set_option maxRecDepth 4000 in
theorem isValid_of_mem_lowerRuns : ∀ run ∈ lowerRuns, run.IsValid := by
  decide

theorem misses_of_mem_lowerRuns {run other : CaseRun} (listed : run ∈ lowerRuns)
    (mem : other ∈ lowerRuns) : run.misses other = true := by
  have all : (lowerRuns.all fun run => lowerRuns.all run.misses) = true := by
    decide +kernel
  exact List.all_eq_true.mp (List.all_eq_true.mp all run listed) other mem

theorem lowerChar_ne_nil (c : Char) : lowerChar c ≠ [] :=
  mapCase_ne_nil (by decide) c

set_option maxRecDepth 4000 in
/-- What stands in the lower-case form of a character is in lower case. -/
theorem lowerChar_of_mem_lowerChar {c d : Char} (mem : d ∈ lowerChar c) : lowerChar d = [d] := by
  have expanded : (lowerExpansions.all fun entry =>
      (entry.2.map Char.ofNat).all fun d => lowerChar d == [d]) = true := by
    decide
  have simple : (lowerRuns.all fun run => lowerExpansions.all fun entry =>
      run.avoids entry.1 entry.1) = true := by
    decide
  rcases mem_mapCase mem with ⟨entry, listed, inside⟩ | ⟨run, listed, own, rfl⟩ | ⟨rfl, still⟩
  · exact eq_of_beq (List.all_eq_true.mp (List.all_eq_true.mp expanded entry listed) d inside)
  · have valid := isValid_of_mem_lowerRuns run listed
    have code := CaseRun.toNat_ofNat_image valid own
    apply mapCase_of_uncovered
    · intro entry mem same
      rw [code] at same
      have avoids := List.all_eq_true.mp (List.all_eq_true.mp simple run listed) entry mem
      exact CaseRun.outside_of_avoids avoids own
        ⟨Nat.le_of_eq same, Nat.le_of_eq same.symm⟩
    · intro other mem
      rw [code]
      exact CaseRun.not_covers_of_misses valid (misses_of_mem_lowerRuns listed mem) own
  · exact still

/-- A text whose first character is in lower case stays as it is. -/
theorem lowerFirst_lowerChar_append (c : Char) (rest : List Char) :
    lowerFirst (lowerChar c ++ rest) = lowerChar c ++ rest := by
  obtain ⟨d, more, form⟩ := List.exists_cons_of_ne_nil (lowerChar_ne_nil c)
  have own : lowerChar d = [d] :=
    lowerChar_of_mem_lowerChar (form ▸ List.mem_cons_self)
  rw [form, List.cons_append, lowerFirst, own]
  rfl

end Lower

section Ranges

variable {runs : List CaseRun} {expansions : List (Nat × List Nat)} {ranges : List (Nat × Nat)}

/-- A mapping whose images avoid some ranges keeps out of them. -/
theorem inRanges_of_mem_mapCase (valid : ∀ run ∈ runs, run.IsValid)
    (avoided : (runs.all fun run => ranges.all fun range => run.avoids range.1 range.2) = true)
    (expanded : (expansions.all fun entry =>
      (entry.2.map Char.ofNat).all fun d => !inRanges ranges d) = true)
    {c d : Char} (own : inRanges ranges c = false) (mem : d ∈ mapCase runs expansions c) :
    inRanges ranges d = false := by
  rcases mem_mapCase mem with ⟨entry, listed, inside⟩ | ⟨run, listed, covered, rfl⟩ | ⟨rfl, -⟩
  · simpa using List.all_eq_true.mp (List.all_eq_true.mp expanded entry listed) d inside
  · rw [Bool.eq_false_iff, Ne, inRanges_iff,
      CaseRun.toNat_ofNat_image (valid run listed) covered]
    rintro ⟨range, some, inside⟩
    have avoids := List.all_eq_true.mp (List.all_eq_true.mp avoided run listed) range some
    exact CaseRun.outside_of_avoids avoids covered inside
  · exact own

set_option maxRecDepth 4000 in
theorem isValid_of_mem_upperRuns : ∀ run ∈ upperRuns, run.IsValid := by
  decide

end Ranges

end DesignTokens.Text
