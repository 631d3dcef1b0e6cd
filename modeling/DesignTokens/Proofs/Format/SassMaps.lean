import DesignTokens.Proofs.Tree.Slots
import Mathlib.Combinatorics.Enumerative.DyckWord

/-!
# Reading maps of Sass

The literal of a map has its entries in parentheses, with a comma between two entries and none
behind the last one. An entry is a quoted name with a value or with a map behind it. The reader
accepts the literals of trees and nothing else, and it gives the tree with its entries in order.

## Implementation notes

Names and values are read as they stand: there are no escapes, a name ends at the next quote, and a
value ends in front of a comma, a closing parenthesis or the end of its line. The reader of tokens
is given a bound on the number of entries, for which the number of tokens is always enough.
-/

namespace DesignTokens.Scss

/-- The tokens of the literal of a map. -/
inductive MapToken where
  | opening
  | closing
  | comma
  | name (text : String)
  | value (text : String)
  deriving DecidableEq, Repr

section Grammar

/-- The tokens of each entry of a level. -/
def entryTokens : Tree String → List (List MapToken)
  | .nil => []
  | .leaf name value rest => [.name name, .value value] :: entryTokens rest
  | .node name children rest =>
    (.name name :: .opening :: [.comma].intercalate (entryTokens children) ++ [.closing]) ::
      entryTokens rest

/-- The tokens of a level: its entries with single commas between them. -/
def levelTokens (tree : Tree String) : List MapToken :=
  [.comma].intercalate (entryTokens tree)

/-- The tokens of a map. -/
def mapTokens (tree : Tree String) : List MapToken :=
  .opening :: levelTokens tree ++ [.closing]

/-- What stands between an entry and the entries behind it. -/
def separator (rest : Tree String) : List MapToken :=
  if rest.isEmpty then [] else [.comma]

theorem separator_of_ne_nil {rest : Tree String} (occupied : rest ≠ .nil) :
    separator rest = [.comma] := by
  cases rest with
  | nil => exact absurd rfl occupied
  | leaf name value more => rfl
  | node name children more => rfl

@[simp] theorem levelTokens_nil : levelTokens .nil = [] := rfl

theorem intercalate_entryTokens (entry : List MapToken) (rest : Tree String) :
    [MapToken.comma].intercalate (entry :: entryTokens rest) =
      entry ++ (separator rest ++ levelTokens rest) := by
  cases rest with
  | nil => simp [entryTokens, separator, Tree.isEmpty]
  | leaf name value more =>
      rw [levelTokens, entryTokens, List.intercalate_cons_cons, List.append_assoc]
      rfl
  | node name children more =>
      rw [levelTokens, entryTokens, List.intercalate_cons_cons, List.append_assoc]
      rfl

theorem levelTokens_leaf (name value : String) (rest : Tree String) :
    levelTokens (.leaf name value rest) =
      [.name name, .value value] ++ (separator rest ++ levelTokens rest) :=
  intercalate_entryTokens _ rest

theorem levelTokens_node (name : String) (children rest : Tree String) :
    levelTokens (.node name children rest) =
      .name name :: .opening :: levelTokens children ++ [.closing] ++
        (separator rest ++ levelTokens rest) :=
  intercalate_entryTokens _ rest

/-- The direction of a parenthesis. -/
def MapToken.step? : MapToken → Option DyckStep
  | .opening => some .U
  | .closing => some .D
  | _ => none

/-- The parentheses among the entries of a level. -/
def parentheses : Tree String → DyckWord
  | .nil => 0
  | .leaf _ _ rest => parentheses rest
  | .node _ children rest => (parentheses children).nest + parentheses rest

theorem filterMap_separator (rest : Tree String) :
    (separator rest).filterMap MapToken.step? = [] := by
  unfold separator
  split <;> rfl

/-- The parentheses of a level are balanced. -/
theorem filterMap_levelTokens (tree : Tree String) :
    (levelTokens tree).filterMap MapToken.step? = (parentheses tree).toList := by
  induction tree with
  | nil => rfl
  | leaf name value rest ih =>
      rw [levelTokens_leaf, List.filterMap_append, List.filterMap_append, filterMap_separator, ih]
      rfl
  | node name children rest ihc ih =>
      simp only [levelTokens_node, List.cons_append, List.filterMap_append, List.filterMap_cons,
        MapToken.step?, filterMap_separator, ih, ihc]
      rfl

theorem filterMap_mapTokens (tree : Tree String) :
    (mapTokens tree).filterMap MapToken.step? = (parentheses tree).nest.toList := by
  simp only [mapTokens, List.cons_append, List.filterMap_cons, List.filterMap_append,
    MapToken.step?, filterMap_levelTokens]
  rfl

end Grammar

section Reader

/-- What stands behind an entry: the end of the level or a comma and the entries behind it. -/
def readBehind (read : List MapToken → Option (Tree String × List MapToken))
    (entry : Tree String → Tree String) : List MapToken → Option (Tree String × List MapToken)
  | .closing :: rest => some (entry .nil, rest)
  | .comma :: rest => (read rest).map fun found => (entry found.1, found.2)
  | _ => none

/-- What stands behind an opening parenthesis: the end of the level or entries. -/
def readInside (read : List MapToken → Option (Tree String × List MapToken)) :
    List MapToken → Option (Tree String × List MapToken)
  | .closing :: rest => some (.nil, rest)
  | tokens => read tokens

/-- The entries of a level up to its closing parenthesis, as far as their number is bounded. -/
def readEntries : Nat → List MapToken → Option (Tree String × List MapToken)
  | bound + 1, .name name :: .value value :: rest =>
    readBehind (readEntries bound) (.leaf name value) rest
  | bound + 1, .name name :: .opening :: rest =>
    (readInside (readEntries bound) rest).bind fun found =>
      readBehind (readEntries bound) (.node name found.1) found.2
  | _, _ => none

/-- The tree that the tokens of a map stand for. -/
def readMap : List MapToken → Option (Tree String)
  | .opening :: rest =>
    match readInside (readEntries rest.length) rest with
    | some (tree, []) => some tree
    | _ => none
  | _ => none

variable {read : List MapToken → Option (Tree String × List MapToken)}
  {entry : Tree String → Tree String} {tokens more : List MapToken} {tree found : Tree String}

/-- A level with an entry starts with its name. -/
theorem exists_levelTokens_cons (occupied : tree ≠ .nil) :
    ∃ name rest, levelTokens tree = .name name :: rest := by
  cases tree with
  | nil => exact absurd rfl occupied
  | leaf name value rest => exact ⟨name, _, levelTokens_leaf name value rest⟩
  | node name children rest => exact ⟨name, _, levelTokens_node name children rest⟩

theorem readInside_levelTokens
    (h : tree ≠ .nil → read (levelTokens tree ++ .closing :: more) = some (tree, more)) :
    readInside read (levelTokens tree ++ .closing :: more) = some (tree, more) := by
  by_cases empty : tree = .nil
  · rw [empty]
    rfl
  · obtain ⟨name, rest, begins⟩ := exists_levelTokens_cons empty
    have own := h empty
    rw [begins] at own ⊢
    exact own

theorem readBehind_levelTokens (entry : Tree String → Tree String)
    (h : tree ≠ .nil → read (levelTokens tree ++ .closing :: more) = some (tree, more)) :
    readBehind read entry (separator tree ++ levelTokens tree ++ .closing :: more) =
      some (entry tree, more) := by
  by_cases empty : tree = .nil
  · rw [empty]
    rfl
  · rw [separator_of_ne_nil empty]
    change (read (levelTokens tree ++ .closing :: more)).map _ = _
    rw [h empty]
    rfl

/-- The number of entries of a tree at all levels. -/
def entryCount : Tree String → Nat
  | .nil => 0
  | .leaf _ _ rest => entryCount rest + 1
  | .node _ children rest => entryCount children + entryCount rest + 1

theorem entryCount_le_length (tree : Tree String) :
    entryCount tree ≤ (levelTokens tree).length := by
  induction tree with
  | nil => exact Nat.le_refl 0
  | leaf name value rest ih =>
      simp only [entryCount, levelTokens_leaf, List.length_append, List.length_cons]
      omega
  | node name children rest ihc ih =>
      simp only [entryCount, levelTokens_node, List.length_append, List.length_cons]
      omega

/-- The entries of a level are read back. -/
theorem readEntries_levelTokens {bound : Nat} (enough : entryCount tree ≤ bound)
    (occupied : tree ≠ .nil) (more : List MapToken) :
    readEntries bound (levelTokens tree ++ .closing :: more) = some (tree, more) := by
  induction tree generalizing bound more with
  | nil => exact absurd rfl occupied
  | leaf name value rest ih =>
      rw [entryCount] at enough
      obtain ⟨less, rfl⟩ : ∃ less, bound = less + 1 := ⟨bound - 1, by omega⟩
      rw [levelTokens_leaf, List.append_assoc]
      exact readBehind_levelTokens (.leaf name value) fun occupied =>
        ih (by omega) occupied more
  | node name children rest ihc ih =>
      rw [entryCount] at enough
      obtain ⟨less, rfl⟩ : ∃ less, bound = less + 1 := ⟨bound - 1, by omega⟩
      have inside := readInside_levelTokens fun occupied =>
        ihc (by omega : _ ≤ less) occupied (separator rest ++ levelTokens rest ++ .closing :: more)
      have split : levelTokens (.node name children rest) ++ .closing :: more =
          .name name :: .opening :: (levelTokens children ++
            .closing :: (separator rest ++ levelTokens rest ++ .closing :: more)) := by
        simp [levelTokens_node]
      rw [split, readEntries, inside]
      exact readBehind_levelTokens (.node name children) fun occupied =>
        ih (by omega) occupied more

/-- A reader that gives the tree of a level only for the tokens of the level. -/
def Faithful (read : List MapToken → Option (Tree String × List MapToken)) : Prop :=
  ∀ tokens tree more, read tokens = some (tree, more) →
    tokens = levelTokens tree ++ .closing :: more ∧ tree ≠ .nil

theorem Faithful.inside (faithful : Faithful read)
    (h : readInside read tokens = some (tree, more)) :
    tokens = levelTokens tree ++ .closing :: more := by
  unfold readInside at h
  split at h
  · cases h
    rfl
  · exact (faithful _ _ _ h).1

theorem Faithful.behind (faithful : Faithful read)
    (h : readBehind read entry tokens = some (found, more)) :
    ∃ rest, found = entry rest ∧
      tokens = separator rest ++ levelTokens rest ++ .closing :: more := by
  unfold readBehind at h
  split at h
  · cases h
    exact ⟨.nil, rfl, rfl⟩
  · obtain ⟨⟨rest, left⟩, own, same⟩ := Option.map_eq_some_iff.mp h
    cases same
    obtain ⟨rfl, occupied⟩ := faithful _ _ _ own
    refine ⟨rest, rfl, ?_⟩
    rw [separator_of_ne_nil occupied]
    rfl
  · cases h

/-- Nothing but the entries of a level is read as its tree. -/
theorem faithful_readEntries (bound : Nat) : Faithful (readEntries bound) := by
  induction bound with
  | zero => exact nofun
  | succ less ih =>
      intro tokens tree more h
      unfold readEntries at h
      split at h
      case h_1 bounded name value rest same =>
          cases same
          obtain ⟨others, rfl, rfl⟩ := ih.behind h
          exact ⟨by simp [levelTokens_leaf], nofun⟩
      case h_2 bounded name rest same =>
          cases same
          obtain ⟨⟨children, left⟩, inner, outer⟩ := Option.bind_eq_some_iff.mp h
          obtain ⟨others, rfl, behind⟩ := ih.behind outer
          rw [ih.inside inner, show left = _ from behind]
          exact ⟨by simp [levelTokens_node], nofun⟩
      case h_3 => cases h

/-- The reader accepts the tokens of the maps and gives their trees. -/
theorem readMap_eq_some_iff : readMap tokens = some tree ↔ tokens = mapTokens tree := by
  constructor
  · intro h
    unfold readMap at h
    split at h
    case h_1 rest =>
        split at h
        case h_1 found read =>
            cases h
            rw [(faithful_readEntries _).inside read]
            rfl
        case h_2 => cases h
    case h_2 => cases h
  · rintro rfl
    have enough : entryCount tree ≤ (levelTokens tree ++ [MapToken.closing]).length := by
      rw [List.length_append]
      exact Nat.le_add_right_of_le (entryCount_le_length tree)
    have inside := readInside_levelTokens fun occupied => readEntries_levelTokens enough occupied []
    rw [mapTokens, List.cons_append, readMap, inside]

/-- A comma behind the last entry is refused. -/
example : readMap [.opening, .name "ink", .value "black", .comma, .closing] = none := by decide

end Reader

end DesignTokens.Scss
