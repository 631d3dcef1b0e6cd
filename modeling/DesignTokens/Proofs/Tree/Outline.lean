import DesignTokens.Proofs.Tree.Leaves
import DesignTokens.Proofs.Tree.Placement

/-!
# The outline of a tree

The outline of a tree lists its lines without their texts: one for each leaf, and one to open
and one to close each subtree, in the order in which they are written. The leaves of the outline
are the leaves of the tree, the lines of a subtree stand together between its opening and its
closing, and a line says whether its entry is the last one of its level.
-/

namespace DesignTokens

variable {α : Type}

namespace Tree

/-- What a line of a rendered tree stands for. -/
inductive LineKind (α : Type) where
  | leaf (value : α)
  | opening
  | closing

/-- Whether a line stands for a leaf or for a part of a subtree. -/
def LineKind.Of : LineKind α → Slot α → Prop
  | .leaf value, slot => slot = .leaf value
  | .opening, slot => ∃ children, slot = .node children
  | .closing, slot => ∃ children, slot = .node children

/-- A line of a rendered tree belongs to an entry, which is given by the path of its level and
by its name. -/
structure Line (α : Type) where
  place : List String
  name : String
  last : Bool
  kind : LineKind α

namespace Line

/-- The path of the entry of a line. -/
def path (line : Line α) : List String :=
  line.place ++ [line.name]

/-- A line of the subtree at a path as a line of the whole tree. -/
def below (above : List String) (line : Line α) : Line α :=
  { line with place := above ++ line.place }

/-- The leaf that a line stands for, with its path. -/
def leaf? (line : Line α) : Option (List String × α) :=
  match line.kind with
  | .leaf value => some (line.path, value)
  | _ => none

/-- A line is outside the entry at a path if it belongs to another entry that is not inside. -/
def Outside (path : List String) (line : Line α) : Prop :=
  ¬ path <+: line.path

/-- An entry of a level fits a line if it has the name of the line, is of its kind, and is the
last one exactly if the line says so. -/
structure Fits (level : Tree α) (line : Line α) : Prop where
  entry : ∃ slot, level.slot? line.name = some slot ∧ line.kind.Of slot
  last : line.last = true ↔ level.names.getLast? = some line.name

@[simp] theorem place_below (above : List String) (line : Line α) :
    (line.below above).place = above ++ line.place := rfl

@[simp] theorem path_below (above : List String) (line : Line α) :
    (line.below above).path = above ++ line.path := by
  simp [path, below]

theorem map_below_nil (lines : List (Line α)) : lines.map (below []) = lines :=
  List.map_id lines

theorem map_below_map_below (above between : List String) (lines : List (Line α)) :
    (lines.map (below between)).map (below above) = lines.map (below (above ++ between)) := by
  simp [below]

theorem Outside.path_ne {path : List String} {line : Line α} (outside : line.Outside path) :
    line.path ≠ path := by
  rintro rfl
  exact outside (List.prefix_refl _)

theorem Outside.cons {name : String} {line : Line α} (outside : line.Outside [name])
    (more : List String) : line.Outside (name :: more) := by
  intro front
  have shorter : [name] <+: name :: more := ⟨more, rfl⟩
  exact outside (shorter.trans front)

theorem Outside.below {more : List String} {line : Line α} (outside : line.Outside more)
    (name : String) : (line.below [name]).Outside (name :: more) := by
  intro front
  rw [path_below, List.singleton_append, List.cons_prefix_cons] at front
  exact outside front.2

/-- The lines of a subtree itself are outside its entries. -/
theorem outside_of_ne_nil {more : List String} (h : more ≠ []) (name : String) (last : Bool)
    (kind : LineKind α) : (⟨[], name, last, kind⟩ : Line α).Outside (name :: more) := by
  intro front
  rw [path, List.nil_append, List.cons_prefix_cons] at front
  exact h (List.prefix_nil.mp front.2)

theorem leaf?_below (name : String) (line : Line α) :
    (line.below [name]).leaf? = line.leaf?.map (under name) := by
  obtain ⟨place, own, last, kind⟩ := line
  cases kind <;> rfl

end Line

/-- The lines of a tree, in order. -/
def outline : Tree α → List (Line α)
  | nil => []
  | leaf name value rest => ⟨[], name, rest.isEmpty, .leaf value⟩ :: rest.outline
  | node name children rest =>
    ⟨[], name, rest.isEmpty, .opening⟩ :: children.outline.map (Line.below [name]) ++
      ⟨[], name, rest.isEmpty, .closing⟩ :: rest.outline

end Tree

/-- The lines of an entry on the first level of a tree. -/
def Slot.outline (name : String) (last : Bool) : Slot α → List (Tree.Line α)
  | leaf value => [⟨[], name, last, .leaf value⟩]
  | node children =>
    ⟨[], name, last, .opening⟩ :: children.outline.map (Tree.Line.below [name]) ++
      [⟨[], name, last, .closing⟩]

namespace Tree

theorem outline_cons (name : String) (slot : Slot α) (rest : Tree α) :
    (cons name slot rest).outline = slot.outline name rest.isEmpty ++ rest.outline := by
  cases slot with
  | leaf value => rfl
  | node children => simp [cons, outline, Slot.outline]

section Entries

/-- Every line of an entry has the name of the entry in front. -/
theorem exists_path_of_mem_slot_outline {name : String} {last : Bool} {slot : Slot α}
    {line : Line α} (mem : line ∈ slot.outline name last) : ∃ rest, line.path = name :: rest := by
  cases slot with
  | leaf value =>
      obtain rfl := List.mem_singleton.mp mem
      exact ⟨[], rfl⟩
  | node children =>
      rw [Slot.outline, List.mem_append, List.mem_cons, List.mem_singleton] at mem
      rcases mem with (rfl | mem) | rfl
      · exact ⟨[], rfl⟩
      · obtain ⟨inner, _, rfl⟩ := List.mem_map.mp mem
        exact ⟨inner.path, Line.path_below [name] inner⟩
      · exact ⟨[], rfl⟩

/-- Every line of a tree belongs to an entry below a name of the tree. -/
theorem exists_path_of_mem_outline {tree : Tree α} {line : Line α} (mem : line ∈ tree.outline) :
    ∃ name rest, line.path = name :: rest ∧ name ∈ tree.names := by
  induction tree using entryInduction with
  | nil => exact absurd mem List.not_mem_nil
  | cons name slot tail ih =>
      rw [outline_cons, List.mem_append] at mem
      rw [names_cons]
      rcases mem with own | other
      · obtain ⟨rest, same⟩ := exists_path_of_mem_slot_outline own
        exact ⟨name, rest, same, List.mem_cons_self⟩
      · obtain ⟨first, rest, same, listed⟩ := ih other
        exact ⟨first, rest, same, List.mem_cons_of_mem _ listed⟩

/-- The lines of an entry stand together, and all other lines are outside the entry. -/
theorem outline_of_slot? {tree : Tree α} (distinct : tree.Distinct) {name : String}
    {slot : Slot α} (found : tree.slot? name = some slot) :
    ∃ before last after, tree.outline = before ++ slot.outline name last ++ after ∧
      ∀ line ∈ before ++ after, line.Outside [name] := by
  induction tree using entryInduction with
  | nil => simp at found
  | cons key own rest ih =>
      obtain ⟨fresh, _, tail⟩ := (distinct_cons ..).mp distinct
      rw [slot?_cons] at found
      rw [outline_cons]
      split at found
      case isTrue same =>
          subst same
          obtain rfl := Option.some.inj found
          refine ⟨[], rest.isEmpty, rest.outline, by simp, fun line mem front => ?_⟩
          obtain ⟨first, more, path, listed⟩ := exists_path_of_mem_outline mem
          rw [path, List.cons_prefix_cons] at front
          exact fresh (front.1 ▸ listed)
      case isFalse different =>
          obtain ⟨before, last, after, split, outside⟩ := ih tail found
          refine ⟨own.outline key rest.isEmpty ++ before, last, after, by simp [split], ?_⟩
          rw [List.append_assoc, List.forall_mem_append]
          refine ⟨fun line mem front => ?_, outside⟩
          obtain ⟨more, path⟩ := exists_path_of_mem_slot_outline mem
          rw [path, List.cons_prefix_cons] at front
          exact different front.1.symm

/-- The lines of an entry at any level stand together, and all other lines are outside the
entry. -/
theorem outline_of_at? {tree : Tree α} (distinct : tree.Distinct) {place : List String}
    {name : String} {slot : Slot α} (found : tree.at? (place ++ [name]) = some slot) :
    ∃ before last after,
      tree.outline = before ++ (slot.outline name last).map (Line.below place) ++ after ∧
      ∀ line ∈ before ++ after, line.Outside (place ++ [name]) := by
  induction place generalizing tree with
  | nil =>
      rw [at?_concat, level_nil] at found
      obtain ⟨before, last, after, split, outside⟩ := outline_of_slot? distinct found
      refine ⟨before, last, after, ?_, outside⟩
      rw [split, Line.map_below_nil]
  | cons first rest ih =>
      -- The first name stands for a subtree, whose lines are split in their turn.
      rw [List.cons_append, at?_cons] at found
      obtain ⟨outer, here, within⟩ := Option.bind_eq_some_iff.mp found
      cases outer with
      | leaf value => cases rest <;> simp [Slot.at?, Slot.children] at within
      | node children =>
          obtain ⟨front, closing, back, around, apart⟩ := outline_of_slot? distinct here
          obtain ⟨before, last, after, split, outside⟩ := ih (distinct.slot here) within
          refine ⟨front ++ ⟨[], first, closing, .opening⟩ :: before.map (Line.below [first]), last,
            after.map (Line.below [first]) ++ ⟨[], first, closing, .closing⟩ :: back, ?_, ?_⟩
          · rw [around, Slot.outline, split, List.map_append, List.map_append,
              Line.map_below_map_below]
            simp
          · rw [List.forall_mem_append] at apart outside
            have bracket : ∀ kind : LineKind α,
                (⟨[], first, closing, kind⟩ : Line α).Outside (first :: rest ++ [name]) :=
              Line.outside_of_ne_nil (by simp) first closing
            simp only [List.forall_mem_append, List.forall_mem_cons, List.forall_mem_map]
            refine ⟨⟨fun line mem => (apart.1 line mem).cons _, bracket _, ?_⟩, ?_, bracket _, ?_⟩
            · exact fun line mem => (outside.1 line mem).below first
            · exact fun line mem => (outside.2 line mem).below first
            · exact fun line mem => (apart.2 line mem).cons _

/-- A subtree has one opening and one closing, and between them stand the lines of its
children. -/
def Encloses (tree : Tree α) (place : List String) (name : String) (children : Tree α) : Prop :=
  ∃ before last after,
    tree.outline = before ++
      ⟨place, name, last, .opening⟩ :: children.outline.map (Line.below (place ++ [name])) ++
      ⟨place, name, last, .closing⟩ :: after ∧
    tree.outline.filter (fun line => line.path = place ++ [name]) =
      [⟨place, name, last, .opening⟩, ⟨place, name, last, .closing⟩]

/-- No line of the children of a subtree belongs to the subtree itself. -/
theorem filter_map_below (path : List String) (children : Tree α) :
    (children.outline.map (Line.below path)).filter (fun line => line.path = path) = [] := by
  rw [List.filter_eq_nil_iff, List.forall_mem_map]
  intro line _
  simp [Line.path]

/-- No line outside an entry belongs to it. -/
theorem filter_of_outside {path : List String} {lines : List (Line α)}
    (outside : ∀ line ∈ lines, line.Outside path) :
    lines.filter (fun line => line.path = path) = [] := by
  rw [List.filter_eq_nil_iff]
  intro line mem same
  exact (outside line mem).path_ne (of_decide_eq_true same)

theorem encloses_of_at? {tree : Tree α} (distinct : tree.Distinct) {place : List String}
    {name : String} {children : Tree α}
    (found : tree.at? (place ++ [name]) = some (.node children)) :
    tree.Encloses place name children := by
  obtain ⟨before, last, after, split, outside⟩ := outline_of_at? distinct found
  rw [List.forall_mem_append] at outside
  have block : tree.outline = before ++
      ⟨place, name, last, .opening⟩ :: children.outline.map (Line.below (place ++ [name])) ++
      ⟨place, name, last, .closing⟩ :: after := by
    rw [split, Slot.outline, List.map_append, List.map_cons, Line.map_below_map_below]
    simp [Line.below]
  refine ⟨before, last, after, block, ?_⟩
  rw [block, List.filter_append, List.filter_append, filter_of_outside outside.1,
    List.filter_cons_of_pos (by simp [Line.path]), filter_map_below,
    List.filter_cons_of_pos (by simp [Line.path]), filter_of_outside outside.2]
  rfl

end Entries

section Fitting

theorem isEmpty_iff_names {tree : Tree α} : tree.isEmpty = true ↔ tree.names = [] := by
  cases tree <;> simp [isEmpty, names]

theorem Line.Fits.mem_names {level : Tree α} {line : Line α} (fits : line.Fits level) :
    line.name ∈ level.names := by
  obtain ⟨slot, found, _⟩ := fits.entry
  rw [← slot?_isSome_iff, found]
  rfl

/-- A line of a level fits the level also with another entry in front. -/
theorem Line.Fits.cons {rest : Tree α} {line : Line α} (fits : line.Fits rest) {name : String}
    (fresh : name ∉ rest.names) (slot : Slot α) : line.Fits (cons name slot rest) where
  entry := by
    have other : line.name ≠ name := fun same => fresh (same ▸ fits.mem_names)
    rw [slot?_cons_of_ne other]
    exact fits.entry
  last := by
    obtain ⟨first, more, same⟩ := List.exists_cons_of_ne_nil (List.ne_nil_of_mem fits.mem_names)
    rw [fits.last, names_cons, same, List.getLast?_cons_cons]

/-- A line of the first entry fits its level if it says whether another entry follows. -/
theorem Line.fits_cons {name : String} {rest : Tree α} (fresh : name ∉ rest.names)
    {slot : Slot α} {kind : LineKind α} (own : kind.Of slot) :
    (⟨[], name, rest.isEmpty, kind⟩ : Line α).Fits (cons name slot rest) where
  entry := ⟨slot, slot?_cons_self .., own⟩
  last := by
    show rest.isEmpty = true ↔ (Tree.cons name slot rest).names.getLast? = some name
    rw [names_cons, isEmpty_iff_names]
    constructor
    · intro alone
      rw [alone]
      rfl
    · intro final
      by_contra followed
      obtain ⟨first, more, same⟩ := List.exists_cons_of_ne_nil followed
      rw [same, List.getLast?_cons_cons] at final
      exact fresh (same ▸ List.mem_of_getLast? final)

/-- A path that leads to an entry starts with a name of the tree. -/
theorem mem_names_of_level {tree : Tree α} {first name : String} {more : List String}
    {slot : Slot α} (found : (tree.level (first :: more)).slot? name = some slot) :
    first ∈ tree.names := by
  rw [← at?_concat, List.cons_append, at?_cons] at found
  obtain ⟨outer, here, _⟩ := Option.bind_eq_some_iff.mp found
  rw [← slot?_isSome_iff, here]
  rfl

/-- Below a name that is not the first one the first entry makes no difference. -/
theorem level_cons_of_ne {name first : String} (h : first ≠ name) (slot : Slot α)
    (rest : Tree α) (more : List String) :
    (cons name slot rest).level (first :: more) = rest.level (first :: more) := by
  rw [level_cons, level_cons, childrenOf_eq, childrenOf_eq, slot?_cons_of_ne h]

theorem level_cons_self (name : String) (children rest : Tree α) (more : List String) :
    (cons name (.node children) rest).level (name :: more) = children.level more := by
  rw [level_cons, childrenOf_eq, slot?_cons_self]
  rfl

/-- Lines that fit their levels still do if a tree gets another entry in front. -/
theorem fits_level_cons {name : String} {rest : Tree α} (fresh : name ∉ rest.names)
    (slot : Slot α) {line : Line α} (fits : line.Fits (rest.level line.place)) :
    line.Fits ((cons name slot rest).level line.place) := by
  obtain ⟨place, own, last, kind⟩ := line
  cases place with
  | nil => exact fits.cons fresh slot
  | cons first more =>
      have other : first ≠ name := by
        rintro rfl
        obtain ⟨_, found, _⟩ := fits.entry
        exact fresh (mem_names_of_level found)
      rw [level_cons_of_ne other]
      exact fits

/-- Every line fits the level it stands at. -/
theorem fits_of_mem_outline {tree : Tree α} (distinct : tree.Distinct) :
    ∀ line ∈ tree.outline, line.Fits (tree.level line.place) := by
  induction tree with
  | nil => exact fun line mem => absurd mem List.not_mem_nil
  | leaf name value rest ih =>
      have own : (LineKind.leaf value).Of (.leaf value) := rfl
      rw [outline, List.forall_mem_cons]
      refine ⟨Line.fits_cons distinct.1 own, fun line mem => ?_⟩
      exact fits_level_cons distinct.1 (.leaf value) (ih distinct.2 line mem)
  | node name children rest ihc ih =>
      obtain ⟨fresh, inside, tail⟩ := distinct
      have opening : LineKind.opening.Of (.node children) := ⟨children, rfl⟩
      have closing : LineKind.closing.Of (.node children) := ⟨children, rfl⟩
      rw [outline, List.forall_mem_append, List.forall_mem_cons, List.forall_mem_cons,
        List.forall_mem_map]
      refine ⟨⟨Line.fits_cons fresh opening, fun line mem => ?_⟩,
        Line.fits_cons fresh closing, fun line mem => ?_⟩
      · have below := ihc inside line mem
        rw [← level_cons_self name children rest] at below
        exact ⟨below.entry, below.last⟩
      · exact fits_level_cons fresh (.node children) (ih tail line mem)

end Fitting

/-- The leaves of the outline are the leaves of the tree. -/
theorem filterMap_leaf?_outline (tree : Tree α) :
    tree.outline.filterMap Line.leaf? = tree.leaves := by
  induction tree with
  | nil => rfl
  | leaf name value rest ih => rw [outline, leaves_leaf, ← ih]; rfl
  | node name children rest ihc ih =>
      have below : Line.leaf? ∘ Line.below [name] =
          fun line : Line α => line.leaf?.map (under name) := funext (Line.leaf?_below name)
      rw [outline, leaves_node, ← ih, ← ihc, List.filterMap_append, List.filterMap_cons,
        List.filterMap_map, below, List.map_filterMap]
      rfl

/-- The outline of a tree agrees with its leaves, its levels and its subtrees. -/
structure Outlined (tree : Tree α) : Prop where
  /-- The leaves of the lines are the leaves of the tree. -/
  leaves : tree.outline.filterMap Line.leaf? = tree.leaves
  /-- A line is marked exactly if its entry is the last one of its level. -/
  last : ∀ line ∈ tree.outline,
    line.last = true ↔ (tree.level line.place).names.getLast? = some line.name
  /-- Only subtrees are opened and closed. -/
  brackets : ∀ line ∈ tree.outline, line.leaf? = none →
    ∃ children, tree.at? line.path = some (.node children)
  /-- Every subtree is opened once and closed once, around its children. -/
  subtrees : ∀ place name children, tree.at? (place ++ [name]) = some (.node children) →
    tree.Encloses place name children

theorem outlined {tree : Tree α} (distinct : tree.Distinct) : tree.Outlined where
  leaves := filterMap_leaf?_outline tree
  last line mem := (fits_of_mem_outline distinct line mem).last
  brackets line mem noLeaf := by
    obtain ⟨slot, found, own⟩ := (fits_of_mem_outline distinct line mem).entry
    rw [Line.path, at?_concat, found]
    obtain ⟨place, name, last, kind⟩ := line
    cases kind with
    | leaf value => exact absurd noLeaf (by simp [Line.leaf?])
    | opening => exact own.imp fun _ => congrArg some
    | closing => exact own.imp fun _ => congrArg some
  subtrees _ _ _ found := encloses_of_at? distinct found

end Tree

end DesignTokens
