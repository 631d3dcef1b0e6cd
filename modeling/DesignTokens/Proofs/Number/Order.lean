import DesignTokens.Number.Basic
import DesignTokens.Proofs.Number.Rounding
import Mathlib

/-!
# The order of numbers

Numbers are ordered by their places on a line of whole numbers with two ends, where the units of
the doubles are counted. Two numbers in stored form have one place only if they are equal, so the
distinct numbers of a list are listed in strict order and none is lost.
-/

namespace DesignTokens.Number

namespace Binary64

theorem natAbs_signedUnits (negative : Bool) (rank : Nat) :
    (signedUnits negative rank).natAbs = units rank := by
  cases negative <;> simp [signedUnits]

/-- Different magnitudes have different units. -/
theorem units_injective : Function.Injective units := by
  intro first second same
  rw [← nearestRank_units first, same, nearestRank_units]

theorem isWhole_of_signedUnits_eq {negative : Bool} {rank : Fin rankLimit} {n : Int}
    (same : n * unitsPerOne = signedUnits negative rank) :
    (finite negative rank).isWhole = true := by
  have magnitude := natAbs_signedUnits negative rank
  rw [← same, Int.natAbs_mul, Int.natAbs_natCast] at magnitude
  rw [isWhole, ← magnitude, Nat.mul_mod_left]
  rfl

end Binary64

/-- A number in stored form that is a number. -/
structure Proper (x : Number) : Prop where
  stored : x.normalize = x
  isNumber : x ≠ .real .nan

/-- The place of a number on the line of units, with an infinity at each end. -/
def place : Number → WithBot (WithTop Int)
  | .integer n => ((n * unitsPerOne : Int) : WithTop Int)
  | .real (.finite negative rank) => ((Binary64.signedUnits negative rank : Int) : WithTop Int)
  | .real (.infinite true) => ⊥
  | .real (.infinite false) => (⊤ : WithTop Int)
  | .real .nan => (⊤ : WithTop Int)

variable {x y z : Number} {xs sorted : List Number}

theorem mul_unitsPerOne_lt_iff (m n : Int) : m * unitsPerOne < n * unitsPerOne ↔ m < n :=
  Int.mul_lt_mul_right (Int.natCast_pos.mpr Binary64.unitsPerOne_pos)

/-- The order of numbers is the order of their places. -/
theorem lt_iff_place_lt (first : x ≠ .real .nan) (second : y ≠ .real .nan) :
    x.lt y = true ↔ x.place < y.place := by
  rcases x with m | ⟨p, r⟩ | ⟨_ | _⟩ | _ <;> rcases y with n | ⟨q, s⟩ | ⟨_ | _⟩ | _ <;>
    simp only [lt, Binary64.lt, place, decide_eq_true_eq, WithBot.coe_lt_coe, WithTop.coe_lt_coe,
      WithTop.coe_lt_top, WithBot.bot_lt_coe, not_top_lt, not_lt_bot, mul_unitsPerOne_lt_iff,
      Bool.not_true, Bool.not_false, Bool.and_true, Bool.and_false, Bool.false_eq_true]
  all_goals contradiction

/-- A finite double in stored form is not whole. -/
theorem Proper.isWhole_eq_false {negative : Bool} {rank : Fin rankLimit}
    (proper : (real (.finite negative rank)).Proper) :
    (Binary64.finite negative rank).isWhole = false := by
  rw [Bool.eq_false_iff]
  intro whole
  have stored := proper.stored
  rw [normalize, Binary64.toInt?, if_pos whole] at stored
  cases stored

theorem Proper.place_integer_ne {negative : Bool} {rank : Fin rankLimit} (n : Int)
    (proper : (real (.finite negative rank)).Proper) :
    n * unitsPerOne ≠ Binary64.signedUnits negative rank := by
  intro same
  have whole := Binary64.isWhole_of_signedUnits_eq same
  rw [proper.isWhole_eq_false] at whole
  cases whole

/-- Two finite doubles of the same signed units are equal, unless they are zeros of two signs. -/
theorem Proper.eq_of_signedUnits_eq {p q : Bool} {r s : Fin rankLimit}
    (proper : (real (.finite p r)).Proper)
    (same : Binary64.signedUnits p r = Binary64.signedUnits q s) :
    Binary64.finite p r = .finite q s := by
  have magnitude : Binary64.units r = Binary64.units s := by
    rw [← Binary64.natAbs_signedUnits p, same, Binary64.natAbs_signedUnits]
  obtain rfl := Fin.ext (Binary64.units_injective magnitude)
  have nonzero := proper.place_integer_ne 0
  rw [Int.zero_mul] at nonzero
  have sign : p = q := by
    cases p <;> cases q <;> simp [Binary64.signedUnits] at same nonzero ⊢ <;> omega
  rw [sign]

/-- Numbers in stored form are told apart by their places. -/
theorem eq_of_place_eq (first : x.Proper) (second : y.Proper) (same : x.place = y.place) :
    x = y := by
  have left := first.isNumber
  have right := second.isNumber
  rcases x with m | ⟨p, r⟩ | ⟨_ | _⟩ | _ <;> rcases y with n | ⟨q, s⟩ | ⟨_ | _⟩ | _ <;>
    simp only [place, WithBot.coe_inj, WithTop.coe_inj, WithTop.coe_ne_top, WithTop.top_ne_coe,
      WithBot.coe_ne_bot, WithBot.bot_ne_coe] at same
  case integer.integer =>
      have nonzero : (unitsPerOne : Int) ≠ 0 := Int.natCast_ne_zero.mpr
        (Nat.ne_of_gt Binary64.unitsPerOne_pos)
      rw [Int.eq_of_mul_eq_mul_right nonzero same]
  case integer.real.finite => exact absurd same (second.place_integer_ne m)
  case real.finite.integer => exact absurd same.symm (first.place_integer_ne n)
  case real.finite.real.finite => exact congrArg real (first.eq_of_signedUnits_eq same)
  all_goals first | rfl | contradiction

theorem Proper.lt_trans (first : x.Proper) (second : y.Proper) (third : z.Proper)
    (below : x.lt y = true) (above : y.lt z = true) : x.lt z = true := by
  rw [lt_iff_place_lt first.isNumber second.isNumber] at below
  rw [lt_iff_place_lt second.isNumber third.isNumber] at above
  exact (lt_iff_place_lt first.isNumber third.isNumber).mpr (below.trans above)

/-- Of two different numbers one is less. -/
theorem Proper.lt_of_ne (first : x.Proper) (second : y.Proper) (differ : x ≠ y)
    (notLess : ¬x.lt y = true) : y.lt x = true := by
  rw [lt_iff_place_lt first.isNumber second.isNumber, not_lt] at notLess
  have places : y.place ≠ x.place := fun same => differ (eq_of_place_eq first second same.symm)
  exact (lt_iff_place_lt second.isNumber first.isNumber).mpr (lt_of_le_of_ne notLess places)

theorem Proper.ne_of_lt (first : x.Proper) (second : y.Proper) (below : x.lt y = true) :
    x ≠ y := by
  rintro rfl
  exact lt_irrefl _ ((lt_iff_place_lt first.isNumber second.isNumber).mp below)

/-- A list in strict order. -/
def Ascending (xs : List Number) : Prop :=
  xs.Pairwise fun x y => x.lt y = true

theorem Ascending.nodup (ascending : Ascending xs) (proper : ∀ x ∈ xs, x.Proper) : xs.Nodup :=
  ascending.imp_of_mem fun first second below => (proper _ first).ne_of_lt (proper _ second) below

theorem mem_insertAscending_iff : y ∈ insertAscending x xs ↔ y = x ∨ y ∈ xs := by
  induction xs with
  | nil => simp [insertAscending]
  | cons z rest ih =>
      rw [insertAscending]
      split
      case isTrue same =>
          subst same
          simp
      case isFalse =>
          split
          case isTrue => simp
          case isFalse => rw [List.mem_cons, ih, List.mem_cons, or_left_comm]

/-- A number is inserted before the first greater one. -/
theorem Ascending.insertAscending (proper : x.Proper) (others : ∀ y ∈ xs, y.Proper)
    (ascending : Ascending xs) : Ascending (x.insertAscending xs) := by
  induction xs with
  | nil => exact List.pairwise_singleton _ x
  | cons y rest ih =>
      obtain ⟨first, more⟩ := List.forall_mem_cons.mp others
      obtain ⟨least, ordered⟩ := List.pairwise_cons.mp ascending
      rw [Number.insertAscending]
      split
      case isTrue => exact ascending
      case isFalse differ =>
          split
          case isTrue below =>
              refine List.pairwise_cons.mpr ⟨fun z mem => ?_, ascending⟩
              rcases List.mem_cons.mp mem with rfl | here
              · exact below
              · exact proper.lt_trans first (more z here) below (least z here)
          case isFalse notLess =>
              refine List.pairwise_cons.mpr ⟨fun z mem => ?_, ih more ordered⟩
              rcases mem_insertAscending_iff.mp mem with rfl | here
              · exact proper.lt_of_ne first differ notLess
              · exact least z here

theorem mem_foldl_insertAscending_iff :
    y ∈ xs.foldl (fun sorted x => insertAscending x sorted) sorted ↔ y ∈ xs ∨ y ∈ sorted := by
  induction xs generalizing sorted with
  | nil => simp
  | cons x rest ih =>
      rw [List.foldl_cons, ih, mem_insertAscending_iff, List.mem_cons, or_left_comm, or_assoc]

/-- Inserting the numbers of a list one after the other keeps the order. -/
theorem Ascending.foldl_insertAscending (proper : ∀ x ∈ xs, x.Proper)
    (others : ∀ y ∈ sorted, y.Proper) (ascending : Ascending sorted) :
    Ascending (xs.foldl (fun sorted x => Number.insertAscending x sorted) sorted) := by
  induction xs generalizing sorted with
  | nil => exact ascending
  | cons x rest ih =>
      obtain ⟨first, more⟩ := List.forall_mem_cons.mp proper
      apply ih more
      · intro y mem
        rcases mem_insertAscending_iff.mp mem with rfl | here
        · exact first
        · exact others y here
      · exact ascending.insertAscending first others

theorem ascending_distinctAscending (proper : ∀ x ∈ xs, x.Proper) :
    Ascending (distinctAscending xs) :=
  .foldl_insertAscending proper (List.forall_mem_nil _) List.Pairwise.nil

/-- The distinct numbers of a list are its members. -/
theorem mem_distinctAscending_iff : y ∈ distinctAscending xs ↔ y ∈ xs := by
  rw [distinctAscending, mem_foldl_insertAscending_iff, or_iff_left List.not_mem_nil]

end DesignTokens.Number
