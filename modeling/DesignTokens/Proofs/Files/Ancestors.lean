import DesignTokens.Proofs.Files.Directories

/-!
# Directories on the way to a directory

In whatever state a tree is, making a directory only adds directories to which the path itself or
a path above it leads, where nothing stood. A directory that stands has directories above it.

-/

namespace DesignTokens

namespace FileTree

variable {old between new tree : FileTree} {path : Path} {place directory : Place}
  {result : Except FileFault Unit}

/-- A directory that is added on the way to a directory: the path of the latter or a path above it
leads to its place. -/
def OnTheWay (path : Path) (tree : FileTree) (place : Place) : Prop :=
  ∃ names, names <+: path.parts ∧ tree.locate ⟨path.anchor, names⟩ = .ok place

/-- A tree that differs from another one by directories on the way to a directory, where nothing
stood. -/
structure AddsDirectories (path : Path) (old new : FileTree) : Prop where
  current : new.current = old.current
  change : ∀ place, new.item? place = old.item? place ∨
    old.item? place = none ∧ new.item? place = some .directory ∧ OnTheWay path new place

section AddsDirectories

theorem addsDirectories_refl (path : Path) (tree : FileTree) : AddsDirectories path tree tree :=
  ⟨rfl, fun _ => .inl rfl⟩

theorem AddsDirectories.keepsDirectories (added : AddsDirectories path old new) :
    KeepsDirectories old new where
  current := added.current
  directory place stands := by
    rcases added.change place with same | ⟨vacant, -⟩
    · rw [same, stands]
    · rw [vacant] at stands
      cases stands

/-- The same files stand in both trees. -/
theorem AddsDirectories.item?_eq_file_iff (added : AddsDirectories path old new)
    {bytes : ByteArray} :
    new.item? place = some (.file bytes) ↔ old.item? place = some (.file bytes) := by
  rcases added.change place with same | ⟨vacant, directory, -⟩
  · rw [same]
  · rw [vacant, directory]
    exact iff_of_false nofun nofun

theorem OnTheWay.mono {above : Path} (anchors : above.anchor = path.anchor)
    (front : above.parts <+: path.parts) (kept : KeepsDirectories old new)
    (way : OnTheWay above old place) : OnTheWay path new place := by
  obtain ⟨names, prefixed, located⟩ := way
  refine ⟨names, prefixed.trans front, ?_⟩
  rw [← anchors]
  exact kept.locate_eq_ok located

/-- First directories on the way to a path above are added, then those on the way to the path. -/
theorem AddsDirectories.trans {above : Path} (first : AddsDirectories above old between)
    (second : AddsDirectories path between new) (anchors : above.anchor = path.anchor)
    (front : above.parts <+: path.parts) : AddsDirectories path old new := by
  refine ⟨second.current.trans first.current, fun place => ?_⟩
  rcases second.change place with same | ⟨vacant, directory, way⟩
  · rw [same]
    rcases first.change place with kept | ⟨vacant, directory, way⟩
    · exact .inl kept
    · exact .inr ⟨vacant, directory, way.mono anchors front second.keepsDirectories⟩
  · rcases first.change place with kept | ⟨-, standing, -⟩
    · exact .inr ⟨kept.symm.trans vacant, directory, way⟩
    · rw [standing] at vacant
      cases vacant

end AddsDirectories

section Settled

theorem ne_nil_of_vacant (vacant : tree.item? place = none) : place ≠ [] := by
  rintro rfl
  rw [item?_root] at vacant
  cases vacant

theorem addsDirectories_put (located : tree.locate path = .ok place)
    (vacant : tree.item? place = none) :
    AddsDirectories path tree (tree.put place .directory) := by
  have below := ne_nil_of_vacant vacant
  have kept : KeepsDirectories tree (tree.put place .directory) := by
    refine ⟨rfl, fun other stands => ?_⟩
    have apart : other ≠ place := by
      rintro rfl
      rw [vacant] at stands
      cases stands
    rwa [item?_put_of_ne apart]
  refine ⟨rfl, fun other => ?_⟩
  by_cases same : other = place
  · rw [same]
    exact .inr ⟨vacant, item?_put_self below _ tree,
      path.parts, List.prefix_refl _, kept.locate_eq_ok located⟩
  · exact .inl (item?_put_of_ne same _ tree)

/-- Making one directory adds at most this one, and it is there if this went well. -/
theorem addsDirectories_settled (h : settled path old = (result, new)) :
    AddsDirectories path old new ∧ (result = .ok () → new.isDirectory path = true) := by
  cases made : old.withDirectory path with
  | ok changed =>
      rw [settled, made] at h
      obtain ⟨rfl, rfl⟩ := Prod.mk.inj h
      unfold withDirectory at made
      split at made
      case h_1 => cases made
      case h_2 place located =>
          split at made
          case h_1 => cases made
          case h_2 vacant =>
              obtain rfl := Except.ok.inj made
              have added := addsDirectories_put located vacant
              exact ⟨added, fun _ => isDirectory_iff.mpr ⟨place,
                added.keepsDirectories.locate_eq_ok located,
                item?_put_self (ne_nil_of_vacant vacant) _ old⟩⟩
  | error fault =>
      rw [settled, made] at h
      obtain ⟨rfl, rfl⟩ := Prod.mk.inj h
      refine ⟨addsDirectories_refl path old, fun well => ?_⟩
      split at well
      case isTrue stands => exact stands.2
      case isFalse => cases well

end Settled

section MakeDirectories

/-- Each run adds directories on the way, from the top down, and ends in the directory if it goes
well. -/
theorem addsDirectories_of_run {depth : Nat}
    (h : old.run (makeDirectoriesWithin depth path) = (result, new)) :
    AddsDirectories path old new ∧ (result = .ok () → new.isDirectory path = true) := by
  induction depth generalizing path result new with
  | zero =>
      rw [makeDirectoriesWithin_zero] at h
      exact addsDirectories_settled h
  | succ depth ih =>
      rw [makeDirectoriesWithin_succ] at h
      split at h
      case isFalse => exact addsDirectories_settled h
      case isTrue =>
          have front : path.parent.parts <+: path.parts := List.dropLast_prefix _
          cases first : old.run (makeDirectoriesWithin depth path.parent) with
          | mk made between =>
              rw [first] at h
              have upper := (ih first).1
              cases made with
              | error fault =>
                  obtain ⟨rfl, rfl⟩ := Prod.mk.inj h
                  have rest := addsDirectories_refl path between
                  exact ⟨upper.trans rest rfl front, nofun⟩
              | ok done =>
                  obtain ⟨lower, stands⟩ := addsDirectories_settled h
                  exact ⟨upper.trans lower rfl front, stands⟩

end MakeDirectories

section Above

/-- More names lead on only from a directory. -/
theorem walk_cons_eq_ok_iff {name : String} {more : List String} (goes_on : more ≠ []) :
    tree.walk directory (name :: more) = .ok place ↔
      tree.item? (step directory name) = some .directory ∧
        tree.walk (step directory name) more = .ok place := by
  obtain ⟨second, rest, rfl⟩ := List.exists_cons_of_ne_nil goes_on
  simp only [walk]
  cases item : tree.item? (step directory name) with
  | none => simp
  | some stored =>
      cases stored with
      | file bytes => simp
      | directory => exact ⟨fun found => ⟨rfl, found⟩, fun both => both.2⟩

/-- Names that lead somewhere pass a directory with every name but the last. -/
theorem exists_of_walk_append_eq_ok {front rest : List String} (some_front : front ≠ [])
    (some_rest : rest ≠ []) (h : tree.walk directory (front ++ rest) = .ok place) :
    ∃ above, tree.walk directory front = .ok above ∧ tree.item? above = some .directory := by
  induction front generalizing directory with
  | nil => exact absurd rfl some_front
  | cons name more ih =>
      obtain ⟨stands, goes⟩ :=
        (walk_cons_eq_ok_iff (List.append_ne_nil_of_right_ne_nil more some_rest)).mp h
      by_cases last : more = []
      · rw [last]
        exact ⟨step directory name, rfl, stands⟩
      · obtain ⟨above, found, deep⟩ := ih last goes
        exact ⟨above, (walk_cons_eq_ok_iff last).mpr ⟨stands, found⟩, deep⟩

/-- Above a directory stand directories. -/
theorem isDirectory_of_prefix {anchor : Anchor} {names front : List String}
    (stands : tree.isDirectory ⟨anchor, names⟩ = true) (some_front : front ≠ [])
    (prefixed : front <+: names) : tree.isDirectory ⟨anchor, front⟩ = true := by
  obtain ⟨rest, rfl⟩ := prefixed
  by_cases whole : rest = []
  · rwa [whole, List.append_nil] at stands
  · obtain ⟨place, located, -⟩ := isDirectory_iff.mp stands
    cases nul : Path.hasNul ⟨anchor, front ++ rest⟩ with
    | true =>
        rw [locate, if_pos nul] at located
        cases located
    | false =>
        have clean : Path.hasNul ⟨anchor, front⟩ = false := by
          simp only [Path.hasNul, List.any_append, Bool.or_eq_false_iff] at nul
          exact nul.1
        rw [locate_eq_walk nul] at located
        obtain ⟨above, found, deep⟩ := exists_of_walk_append_eq_ok some_front whole located
        exact isDirectory_iff.mpr ⟨above, (locate_eq_walk clean).trans found, deep⟩

end Above

end FileTree

end DesignTokens
