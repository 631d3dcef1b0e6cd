import DesignTokens.Proofs.Files.Places

/-!
# Trees of files that grow

A run only adds to a tree: directories with given names where nothing stood, and files with given
names where no directory stood. Then every path that leads to a directory goes on leading there,
and what stands under other names is left alone.

-/

namespace DesignTokens

namespace FileTree

/-- Where a directory stands in a tree one stands in a later tree, and relative paths start from the
same directory. -/
structure KeepsDirectories (old new : FileTree) : Prop where
  current : new.current = old.current
  directory : ∀ place, old.item? place = some .directory → new.item? place = some .directory

section KeepsDirectories

variable {old new last : FileTree} {place directory : Place} {path : Path}

theorem keepsDirectories_refl (tree : FileTree) : KeepsDirectories tree tree :=
  ⟨rfl, fun _ stands => stands⟩

theorem KeepsDirectories.trans (kept : KeepsDirectories old new)
    (next : KeepsDirectories new last) : KeepsDirectories old last :=
  ⟨next.current.trans kept.current, fun place stands =>
    next.directory place (kept.directory place stands)⟩

/-- Where a path leads in a tree it leads in one that keeps its directories, since only directories
are passed. -/
theorem KeepsDirectories.walk_eq_ok (kept : KeepsDirectories old new) (names : List String)
    (h : old.walk directory names = .ok place) : new.walk directory names = .ok place := by
  induction names generalizing directory with
  | nil => exact h
  | cons name rest ih =>
      cases rest with
      | nil => exact h
      | cons second more =>
          simp only [walk] at h ⊢
          cases item : old.item? (step directory name) with
          | none =>
              rw [item] at h
              cases h
          | some stored =>
              rw [item] at h
              cases stored with
              | file bytes => cases h
              | directory =>
                  rw [kept.directory _ item]
                  exact ih h

theorem KeepsDirectories.locate_eq_ok (kept : KeepsDirectories old new)
    (h : old.locate path = .ok place) : new.locate path = .ok place := by
  unfold locate at h ⊢
  split at h
  case isTrue => cases h
  case isFalse clean =>
      rw [if_neg clean, kept.current]
      exact kept.walk_eq_ok path.parts h

theorem KeepsDirectories.isDirectory (kept : KeepsDirectories old new)
    (stands : old.isDirectory path = true) : new.isDirectory path = true := by
  obtain ⟨place, located, item⟩ := isDirectory_iff.mp stands
  exact isDirectory_iff.mpr ⟨place, kept.locate_eq_ok located, kept.directory place item⟩

end KeepsDirectories

/-- What may happen to a place: it is kept, a directory with one of the made names is added, or a
file with one of the written names is put there. -/
inductive Change (made written : List String) (place : Place) :
    Option FileItem → Option FileItem → Prop
  | kept (item : Option FileItem) : Change made written place item item
  | added (name : String) (last : place.getLast? = some name) (mem : name ∈ made) :
      Change made written place none (some .directory)
  | put (name : String) (last : place.getLast? = some name) (mem : name ∈ written)
      (old : Option FileItem) (solid : old ≠ some .directory) (bytes : ByteArray) :
      Change made written place old (some (.file bytes))

/-- A tree that extends another one by directories and files of given names. -/
structure Extends (made written : List String) (old new : FileTree) : Prop where
  current : new.current = old.current
  change : ∀ place, Change made written place (old.item? place) (new.item? place)

section Change

variable {made written moreMade moreWritten : List String} {place : Place}
  {first second third : Option FileItem}

theorem Change.mono (change : Change made written place first second)
    (names : made ⊆ moreMade) (files : written ⊆ moreWritten) :
    Change moreMade moreWritten place first second := by
  cases change with
  | kept => exact .kept _
  | added name last mem => exact .added name last (names mem)
  | put name last mem _ solid bytes => exact .put name last (files mem) _ solid bytes

theorem Change.trans (change : Change made written place first second)
    (next : Change made written place second third) : Change made written place first third := by
  cases next with
  | kept => exact change
  | added name last mem =>
      cases change with
      | kept => exact .added name last mem
  | put name last mem _ solid bytes =>
      cases change with
      | kept => exact .put name last mem _ solid bytes
      | added => exact absurd rfl solid
      | put other same listed _ vacant => exact .put other same listed _ vacant bytes

/-- A directory stays. -/
theorem Change.directory (change : Change made written place (some .directory) second) :
    second = some .directory := by
  cases change with
  | kept => rfl
  | put name last mem _ solid bytes => exact absurd rfl solid

/-- What stands under a name that is not written stays. -/
theorem Change.item {item : FileItem} (change : Change made written place (some item) second)
    (apart : ∀ name ∈ place.getLast?, name ∉ written) : second = some item := by
  cases change with
  | kept => rfl
  | put name last mem _ solid bytes => exact absurd mem (apart name last)

/-- Nothing appears under a name that is neither made nor written. -/
theorem Change.eq (change : Change made written place first second)
    (apart : ∀ name ∈ place.getLast?, name ∉ made ∧ name ∉ written) : second = first := by
  cases change with
  | kept => rfl
  | added name last mem => exact absurd mem (apart name last).1
  | put name last mem _ solid bytes => exact absurd mem (apart name last).2

end Change

section Extends

variable {made written moreMade moreWritten : List String} {old new last : FileTree}
  {place : Place} {path : Path}

theorem extends_refl (tree : FileTree) : Extends made written tree tree :=
  ⟨rfl, fun _ => .kept _⟩

theorem Extends.trans (grown : Extends made written old new)
    (next : Extends made written new last) : Extends made written old last :=
  ⟨next.current.trans grown.current, fun place => (grown.change place).trans (next.change place)⟩

theorem Extends.mono (grown : Extends made written old new) (names : made ⊆ moreMade)
    (files : written ⊆ moreWritten) : Extends moreMade moreWritten old new :=
  ⟨grown.current, fun place => (grown.change place).mono names files⟩

theorem Extends.item?_directory (grown : Extends made written old new)
    (stands : old.item? place = some .directory) : new.item? place = some .directory := by
  have change := grown.change place
  rw [stands] at change
  exact change.directory

theorem Extends.rooted (grown : Extends made written old new) (rooted : old.Rooted) :
    new.Rooted where
  directory place front :=
    grown.item?_directory (rooted.directory place (grown.current ▸ front))
  plain := grown.current ▸ rooted.plain

theorem Extends.keepsDirectories (grown : Extends made written old new) :
    KeepsDirectories old new :=
  ⟨grown.current, fun _ stands => grown.item?_directory stands⟩

theorem Extends.locate_eq_ok (grown : Extends made written old new)
    (h : old.locate path = .ok place) : new.locate path = .ok place :=
  grown.keepsDirectories.locate_eq_ok h

theorem Extends.isDirectory (grown : Extends made written old new)
    (stands : old.isDirectory path = true) : new.isDirectory path = true :=
  grown.keepsDirectories.isDirectory stands

end Extends

section Lookup

variable {made written : List String} {old new : FileTree} {path : Path} {name : String}

/-- A file is found as it was, unless a file of its name is written. -/
theorem Extends.lookup_file (grown : Extends made written old new) (rooted : old.Rooted)
    {bytes : ByteArray} (h : old.lookup path = .ok (.file bytes))
    (apart : ∀ name ∈ path.parts.getLast?, name ∉ written) :
    new.lookup path = .ok (.file bytes) := by
  obtain ⟨place, located, item⟩ := lookup_eq_ok_iff.mp h
  obtain ⟨name, named, last⟩ := rooted.getLast?_of_solid located fun stands => by
    rw [item] at stands
    cases stands
  have change := grown.change place
  rw [item] at change
  have kept : new.item? place = some (.file bytes) := by
    apply change.item
    rw [last, ← named]
    exact apart
  exact lookup_eq_ok_iff.mpr ⟨place, grown.locate_eq_ok located, kept⟩

/-- In the current directory the same is found under a name that is neither made nor written. -/
theorem Extends.lookup_here (grown : Extends made written old new) (rooted : old.Rooted)
    (plain : IsName name) (apart : name ∉ made ∧ name ∉ written) :
    new.lookup (old.here.child name) = old.lookup (old.here.child name) := by
  rw [plain.child]
  change new.lookup ⟨.root, old.current ++ [name]⟩ = old.lookup ⟨.root, old.current ++ [name]⟩
  cases nul : Path.hasNul ⟨.root, old.current ++ [name]⟩ with
  | true => rw [lookup, lookup, locate, locate, if_pos nul, if_pos nul]; rfl
  | false =>
      have located := rooted.locate_here_concat plain.below nul
      have same := (grown.change (old.current ++ [name])).eq (by simpa using apart)
      rw [lookup_of_locate located, lookup_of_locate (grown.locate_eq_ok located), same]

end Lookup

section Put

variable {made written : List String} {tree : FileTree} {place : Place} {item : FileItem}

/-- Putting something at one place extends a tree if it is a change of this place. -/
theorem extends_put (below : place ≠ [])
    (change : Change made written place (tree.item? place) (some item)) :
    Extends made written tree (tree.put place item) := by
  refine ⟨rfl, fun other => ?_⟩
  by_cases same : other = place
  · rw [same, item?_put_self below]
    exact change
  · rw [item?_put_of_ne same]
    exact .kept _

end Put

end FileTree

end DesignTokens
