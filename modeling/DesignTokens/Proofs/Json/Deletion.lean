import DesignTokens.Proofs.Entries.Collect
import DesignTokens.Proofs.Json.Parts

/-!
# Deleting members

The names that lead from a value to a member of one of its objects are the address of the
member. Members are deleted by their addresses, any number of them at once.
-/

namespace DesignTokens.Json

/-- The addresses below a member. -/
def belowMember (name : String) (doomed : List String → Bool) : List String → Bool :=
  fun address => doomed (name :: address)

mutual

/-- A value without the members at the doomed addresses. -/
def prune (doomed : List String → Bool) : Json → Json
  | .object members => .object (pruneMembers doomed members)
  | value => value

/-- The members of an object without those at the doomed addresses. -/
def pruneMembers (doomed : List String → Bool) :
    List (String × Json) → List (String × Json)
  | [] => []
  | (name, value) :: rest =>
    if doomed [name] then pruneMembers doomed rest
    else (name, prune (belowMember name doomed) value) :: pruneMembers doomed rest

end

variable {doomed : List String → Bool}

theorem pruneMembers_cons_of_doomed {name : String} (h : doomed [name] = true) (value : Json)
    (rest : List (String × Json)) :
    pruneMembers doomed ((name, value) :: rest) = pruneMembers doomed rest := by
  rw [pruneMembers, if_pos h]

theorem pruneMembers_cons_of_not_doomed {name : String} (h : doomed [name] = false)
    (value : Json) (rest : List (String × Json)) :
    pruneMembers doomed ((name, value) :: rest) =
      (name, prune (belowMember name doomed) value) :: pruneMembers doomed rest := by
  rw [pruneMembers, h, if_neg Bool.false_ne_true]

@[simp] theorem prune_object (members : List (String × Json)) :
    prune doomed (.object members) = .object (pruneMembers doomed members) := by
  rw [prune]

theorem prune_of_no_object {value : Json} (h : ∀ members, value ≠ .object members) :
    prune doomed value = value := by
  cases value with
  | object members => exact absurd rfl (h members)
  | _ => rw [prune]; simp

/-- Deleting nothing below a value leaves it as it is. -/
theorem prune_eq_self {value : Json} (spared : ∀ name rest, doomed (name :: rest) = false) :
    prune doomed value = value := by
  induction value using partInduction generalizing doomed with
  | object members ih =>
      rw [prune_object]
      congr 1
      induction members with
      | nil => rw [pruneMembers]
      | cons member rest tail =>
          obtain ⟨name, value⟩ := member
          have own : prune (belowMember name doomed) value = value :=
            ih _ List.mem_cons_self fun key more => spared name (key :: more)
          rw [pruneMembers_cons_of_not_doomed (spared name []), own,
            tail fun other mem => ih other (List.mem_cons_of_mem _ mem)]
  | _ => exact prune_of_no_object (by simp)

/-- The value of a name is deleted or pruned. -/
theorem get?_pruneMembers (name : String) (members : List (String × Json)) :
    Entries.get? name (pruneMembers doomed members) =
      if doomed [name] then none
      else (Entries.get? name members).map (prune (belowMember name doomed)) := by
  induction members with
  | nil => simp [pruneMembers, Entries.get?]
  | cons member rest ih =>
      obtain ⟨key, value⟩ := member
      by_cases gone : doomed [key] = true
      · rw [pruneMembers_cons_of_doomed gone, ih, Entries.get?]
        by_cases same : key = name
        · subst same
          rw [if_pos gone, if_pos gone]
        · rw [if_neg same]
      · rw [Bool.not_eq_true] at gone
        rw [pruneMembers_cons_of_not_doomed gone, Entries.get?, Entries.get?, ih]
        by_cases same : key = name
        · subst same
          rw [if_pos rfl, if_pos rfl, gone]
          rfl
        · rw [if_neg same, if_neg same]

/-- What is left of a member. -/
def prunedMember? (doomed : List String → Bool) (member : String × Json) :
    Option (String × Json) :=
  if doomed [member.1] then none
  else some (member.1, prune (belowMember member.1 doomed) member.2)

theorem pruneMembers_eq_filterMap (members : List (String × Json)) :
    pruneMembers doomed members = members.filterMap (prunedMember? doomed) := by
  induction members with
  | nil => rw [pruneMembers, List.filterMap_nil]
  | cons member rest ih =>
      obtain ⟨name, value⟩ := member
      cases gone : doomed [name] with
      | true => simp [pruneMembers, prunedMember?, gone, ih]
      | false => simp [pruneMembers, prunedMember?, gone, ih]

section Steps

variable {members : List (String × Json)}

/-- A run over members that passes over the deleted ones and does not look at what is deleted
below the others ends as before. -/
theorem foldl_pruneMembers {σ : Type} {step : σ → String × Json → σ}
    (passed : ∀ member ∈ members, doomed [member.1] = true → ∀ state, step state member = state)
    (same : ∀ member ∈ members, doomed [member.1] = false → ∀ state,
      step state (member.1, prune (belowMember member.1 doomed) member.2) = step state member)
    (state : σ) :
    (pruneMembers doomed members).foldl step state = members.foldl step state := by
  rw [pruneMembers_eq_filterMap, List.foldl_filterMap]
  apply List.foldl_ext
  intro before member mem
  cases gone : doomed [member.1] with
  | true => simp only [prunedMember?, gone, if_true, passed member mem gone before]
  | false => simp [prunedMember?, gone, same member mem gone before]

/-- Choosing among members what neither the deleted ones nor what is deleted below the others
has a part in. -/
theorem filterMap_pruneMembers {β : Type} {choose : String × Json → Option β}
    (passed : ∀ member ∈ members, doomed [member.1] = true → choose member = none)
    (same : ∀ member ∈ members, doomed [member.1] = false →
      choose (member.1, prune (belowMember member.1 doomed) member.2) = choose member) :
    (pruneMembers doomed members).filterMap choose = members.filterMap choose := by
  rw [pruneMembers_eq_filterMap, List.filterMap_filterMap]
  apply List.filterMap_congr
  intro member mem
  cases gone : doomed [member.1] with
  | true => simp [prunedMember?, gone, passed member mem gone]
  | false => simp [prunedMember?, gone, same member mem gone]

end Steps

end DesignTokens.Json
