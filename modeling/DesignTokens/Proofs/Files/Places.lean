import DesignTokens.Files.Memory
import Mathlib.Data.List.Induction

/-!
# Places of a tree of files

A path is followed name by name: the place of a longer path is the one that its last name leads to
from the place of the path above it, where a directory has to stand. In a tree whose current
directory exists every path starts in a directory. A path with a NUL in a name is not followed at
all, and what cannot be read is told to the user unless it has such a path.

-/

namespace DesignTokens

/-- A text that names a file or a directory inside a directory. -/
structure IsName (name : String) : Prop where
  read : Path.ofString name = ⟨.here, [name]⟩
  below : name ≠ ".."
  clean : name.toList.contains '\x00' = false

theorem isName_iff {name : String} :
    IsName name ↔
      Path.ofString name = ⟨.here, [name]⟩ ∧ name ≠ ".." ∧ name.toList.contains '\x00' = false :=
  ⟨fun named => ⟨named.read, named.below, named.clean⟩, fun ⟨read, below, clean⟩ =>
    ⟨read, below, clean⟩⟩

instance (name : String) : Decidable (IsName name) :=
  decidable_of_iff' _ isName_iff

theorem IsName.child {name : String} (named : IsName name) (directory : Path) :
    directory.child name = ⟨directory.anchor, directory.parts ++ [name]⟩ := by
  rw [Path.child, named.read]
  rfl

namespace FileTree

variable {tree : FileTree} {place directory : Place} {item : FileItem}

/-- Putting what stands at a place already changes nothing. -/
theorem putIn_of_itemIn?_eq_some {items : List (Place × FileItem)}
    (here : itemIn? place items = some item) : putIn place item items = items := by
  induction items with
  | nil => cases here
  | cons entry rest ih =>
      obtain ⟨key, old⟩ := entry
      rw [itemIn?] at here
      rw [putIn]
      split
      case isTrue same =>
          rw [if_pos same] at here
          rw [Option.some.inj here]
      case isFalse other =>
          rw [if_neg other] at here
          rw [ih here]

theorem put_of_item?_eq_some (below : place ≠ []) (here : tree.item? place = some item) :
    tree.put place item = tree := by
  rw [item?, if_neg below] at here
  rw [put, putIn_of_itemIn?_eq_some here]

/-- The current directory and those above it exist, and it is named without going up. -/
structure Rooted (tree : FileTree) : Prop where
  directory : ∀ place, place <+: tree.current → tree.item? place = some .directory
  plain : ".." ∉ tree.current

/-- The path of the current directory. -/
def here (tree : FileTree) : Path :=
  ⟨.root, tree.current⟩

/-- The place from which a path is followed. -/
def start (tree : FileTree) (anchor : Anchor) : Place :=
  if anchor = .here then tree.current else []

theorem Rooted.item?_start (rooted : tree.Rooted) (anchor : Anchor) :
    tree.item? (tree.start anchor) = some .directory := by
  unfold start
  split
  · exact rooted.directory tree.current (List.prefix_refl _)
  · exact item?_root tree

theorem locate_eq_walk {path : Path} (clean : path.hasNul = false) :
    tree.locate path = tree.walk (tree.start path.anchor) path.parts := by
  rw [locate, if_neg (by simp [clean])]
  rfl

section Walk

/-- The place that a name leads to from a place, where a directory has to stand. -/
def enter (tree : FileTree) (name : String) (place : Place) : Except FileProblem Place :=
  match tree.item? place with
  | some .directory => .ok (step place name)
  | some (.file _) => .error .notADirectory
  | none => .error .notFound

theorem enter_of_directory (stands : tree.item? place = some .directory) (name : String) :
    tree.enter name place = .ok (step place name) := by
  rw [enter, stands]

/-- Only directories are entered. -/
theorem item?_of_enter_eq_ok {name : String} {found : Place}
    (h : tree.enter name place = .ok found) :
    tree.item? place = some .directory ∧ found = step place name := by
  unfold enter at h
  split at h
  case h_1 stands => exact ⟨stands, (Except.ok.inj h).symm⟩
  case h_2 => cases h
  case h_3 => cases h

theorem walk_concat (stands : tree.item? directory = some .directory) (names : List String)
    (name : String) :
    tree.walk directory (names ++ [name]) = tree.walk directory names >>= tree.enter name := by
  induction names generalizing directory with
  | nil => exact (enter_of_directory stands name).symm
  | cons first rest ih =>
      cases rest with
      | nil =>
          simp only [List.singleton_append, walk]
          change _ = tree.enter name (step directory first)
          unfold enter
          cases item : tree.item? (step directory first) with
          | none => rfl
          | some stored => cases stored <;> rfl
      | cons second more =>
          simp only [List.cons_append, walk]
          cases item : tree.item? (step directory first) with
          | none => rfl
          | some stored =>
              cases stored with
              | file bytes => rfl
              | directory => exact ih item

end Walk

section Locate

variable {path : Path} {anchor : Anchor} {names : List String} {name : String}

theorem hasNul_concat :
    Path.hasNul ⟨anchor, names ++ [name]⟩ =
      (Path.hasNul ⟨anchor, names⟩ || name.toList.contains '\x00') := by
  simp [Path.hasNul]

theorem locate_concat (rooted : tree.Rooted) (clean : name.toList.contains '\x00' = false) :
    tree.locate ⟨anchor, names ++ [name]⟩ = tree.locate ⟨anchor, names⟩ >>= tree.enter name := by
  have same : Path.hasNul ⟨anchor, names ++ [name]⟩ = Path.hasNul ⟨anchor, names⟩ := by
    rw [hasNul_concat, clean, Bool.or_false]
  cases nul : Path.hasNul ⟨anchor, names⟩ with
  | true =>
      rw [locate, locate, if_pos (same.trans nul), if_pos nul]
      rfl
  | false =>
      rw [locate_eq_walk (same.trans nul), locate_eq_walk nul]
      exact walk_concat (rooted.item?_start anchor) names name

/-- A path is found only below a directory. -/
theorem exists_of_locate_concat_eq_ok (rooted : tree.Rooted)
    (h : tree.locate ⟨anchor, names ++ [name]⟩ = .ok place) :
    ∃ above, tree.locate ⟨anchor, names⟩ = .ok above ∧
      tree.item? above = some .directory ∧ place = step above name := by
  cases clean : name.toList.contains '\x00' with
  | true =>
      rw [locate, if_pos (by rw [hasNul_concat, clean, Bool.or_true])] at h
      cases h
  | false =>
      rw [locate_concat rooted clean] at h
      cases parent : tree.locate ⟨anchor, names⟩ with
      | error problem =>
          rw [parent] at h
          cases h
      | ok above =>
          rw [parent] at h
          exact ⟨above, rfl, item?_of_enter_eq_ok h⟩

/-- All places above one that is found are directories. -/
theorem Rooted.item?_above (rooted : tree.Rooted) (h : tree.locate path = .ok place) :
    ∀ front, front <+: place.dropLast → tree.item? front = some .directory := by
  obtain ⟨anchor, names⟩ := path
  induction names using List.reverseRecOn generalizing place with
  | nil =>
      have found : tree.start anchor = place := Except.ok.inj h
      intro front prefixed
      have within : front <+: tree.start anchor :=
        prefixed.trans (found ▸ List.dropLast_prefix _)
      unfold start at within
      split at within
      · exact rooted.directory front within
      · rw [List.prefix_nil.mp within, item?_root]
  | append_singleton names name ih =>
      obtain ⟨above, located, stands, rfl⟩ := exists_of_locate_concat_eq_ok rooted h
      have all : ∀ front, front <+: above → tree.item? front = some .directory := by
        intro front prefixed
        rcases List.eq_nil_or_concat above with rfl | ⟨first, last, rfl⟩
        · rw [List.prefix_nil.mp prefixed, item?_root]
        · rw [List.concat_eq_append] at prefixed stands located
          rcases List.prefix_concat_iff.mp prefixed with rfl | shorter
          · exact stands
          · exact ih located front (by simpa using shorter)
      intro front prefixed
      apply all
      unfold step at prefixed
      split at prefixed
      · exact prefixed.trans ((List.dropLast_prefix _).trans (List.dropLast_prefix _))
      · simpa using prefixed

/-- Where no directory stands the last name of the path leads down. -/
theorem Rooted.getLast?_of_solid (rooted : tree.Rooted) (h : tree.locate path = .ok place)
    (solid : tree.item? place ≠ some .directory) :
    ∃ name, path.parts.getLast? = some name ∧ place.getLast? = some name := by
  obtain ⟨anchor, names⟩ := path
  rcases List.eq_nil_or_concat names with rfl | ⟨names, name, rfl⟩
  · have found : tree.start anchor = place := Except.ok.inj h
    exact absurd (found ▸ rooted.item?_start anchor) solid
  · rw [List.concat_eq_append] at h ⊢
    obtain ⟨above, located, -, rfl⟩ := exists_of_locate_concat_eq_ok rooted h
    by_cases up : name = ".."
    · rw [step, if_pos up] at solid
      exact absurd (rooted.item?_above located _ (List.prefix_refl _)) solid
    · rw [step, if_neg up]
      exact ⟨name, by simp, by simp⟩

theorem lookup_of_locate (located : tree.locate path = .ok place) :
    tree.lookup path = match tree.item? place with
      | some item => .ok item
      | none => .error .notFound := by
  rw [lookup, located]
  rfl

theorem lookup_eq_ok_iff :
    tree.lookup path = .ok item ↔
      ∃ place, tree.locate path = .ok place ∧ tree.item? place = some item := by
  cases located : tree.locate path with
  | error problem =>
      rw [lookup, located]
      exact iff_of_false nofun fun ⟨_, found, _⟩ => nomatch found
  | ok place =>
      rw [lookup_of_locate located]
      cases stored : tree.item? place <;> simp [stored]

theorem isDirectory_iff :
    tree.isDirectory path = true ↔
      ∃ place, tree.locate path = .ok place ∧ tree.item? place = some .directory := by
  rw [← lookup_eq_ok_iff, isDirectory]
  split
  case h_1 found => exact iff_of_true rfl found
  case h_2 other => exact iff_of_false Bool.false_ne_true fun found => other found

/-- Names that all lead to directories, none of which goes up, lead to the place that they
spell. -/
theorem walk_root_eq_ok (stands : ∀ place, place <+: names → tree.item? place = some .directory)
    (plain : ".." ∉ names) : tree.walk [] names = .ok names := by
  induction names using List.reverseRecOn with
  | nil => rfl
  | append_singleton names name ih =>
      rw [List.mem_append, not_or, List.mem_singleton] at plain
      have above : ∀ place, place <+: names → tree.item? place = some .directory :=
        fun place front => stands place (front.trans (List.prefix_append _ _))
      have last : tree.item? names = some .directory := above names (List.prefix_refl _)
      rw [walk_concat (item?_root tree), ih above plain.1]
      change tree.enter name names = _
      rw [enter_of_directory last, step, if_neg (Ne.symm plain.2)]

/-- A name in the current directory leads to the place below it. -/
theorem Rooted.locate_here_concat (rooted : tree.Rooted) (plain : name ≠ "..")
    (clean : Path.hasNul ⟨.root, tree.current ++ [name]⟩ = false) :
    tree.locate ⟨.root, tree.current ++ [name]⟩ = .ok (tree.current ++ [name]) := by
  have current : tree.item? tree.current = some .directory :=
    rooted.directory tree.current (List.prefix_refl _)
  have start : tree.walk [] tree.current = .ok tree.current :=
    walk_root_eq_ok rooted.directory rooted.plain
  rw [locate_eq_walk clean]
  change tree.walk [] (tree.current ++ [name]) = _
  rw [walk_concat (item?_root tree), start]
  change tree.enter name tree.current = _
  rw [enter_of_directory current, step, if_neg plain]

end Locate

section Reading

variable {path : Path}

/-- The system is asked for what a walk does not find, so it reports the problem. -/
theorem report?_of_walk_eq_error {directory : Place} {names : List String} {problem : FileProblem}
    (failed : tree.walk directory names = .error problem) : problem.report?.isSome = true := by
  fun_induction walk tree directory names with
  | case1 => cases failed
  | case2 => cases failed
  | case3 _ _ _ _ _ ih => exact ih failed
  | case4 =>
      cases failed
      rfl
  | case5 =>
      cases failed
      rfl

theorem locate_of_hasNul (nul : path.hasNul = true) :
    tree.locate path = .error .nulInName := by
  rw [locate, if_pos nul]

/-- A NUL in a name is all that keeps the system from being asked. -/
theorem report?_of_locate_eq_error {problem : FileProblem}
    (failed : tree.locate path = .error problem) :
    problem.report?.isSome = true ↔ path.hasNul = false := by
  cases nul : path.hasNul with
  | true =>
      rw [locate_of_hasNul nul] at failed
      cases failed
      exact iff_of_false nofun nofun
  | false =>
      rw [locate_eq_walk nul] at failed
      exact iff_of_true (report?_of_walk_eq_error failed) rfl

theorem hasNul_of_locate_eq_ok {place : Place} (located : tree.locate path = .ok place) :
    path.hasNul = false := by
  by_contra nul
  rw [Bool.not_eq_false] at nul
  rw [locate_of_hasNul nul] at located
  cases located

theorem report?_of_lookup_eq_error {problem : FileProblem}
    (failed : tree.lookup path = .error problem) :
    problem.report?.isSome = true ↔ path.hasNul = false := by
  cases located : tree.locate path with
  | error other =>
      rw [lookup, located] at failed
      cases failed
      exact report?_of_locate_eq_error located
  | ok place =>
      rw [lookup_of_locate located] at failed
      split at failed <;> cases failed
      exact iff_of_true rfl (hasNul_of_locate_eq_ok located)

theorem hasNul_of_lookup_eq_ok {item : FileItem} (found : tree.lookup path = .ok item) :
    path.hasNul = false := by
  cases located : tree.locate path with
  | error problem =>
      rw [lookup, located] at found
      cases found
  | ok place => exact hasNul_of_locate_eq_ok located

theorem readBytes_eq_ok_iff {bytes : ByteArray} :
    tree.readBytes path = .ok bytes ↔ tree.lookup path = .ok (.file bytes) := by
  unfold readBytes
  split
  case h_1 other found => simp [found]
  case h_2 found => simp [found]
  case h_3 problem missing => simp [missing]

/-- What cannot be read is no file, and the system is asked for it unless it holds a NUL. -/
theorem of_readBytes_eq_error {fault : FileFault} (failed : tree.readBytes path = .error fault) :
    (∀ bytes, tree.lookup path ≠ .ok (.file bytes)) ∧
      (fault.isReported = true ↔ path.hasNul = false) := by
  unfold readBytes at failed
  split at failed
  case h_1 => cases failed
  case h_2 found =>
      cases failed
      rw [found]
      exact ⟨fun _ => nofun, iff_of_true rfl (hasNul_of_lookup_eq_ok found)⟩
  case h_3 problem missing =>
      cases failed
      rw [missing]
      exact ⟨fun _ => nofun, report?_of_lookup_eq_error missing⟩

end Reading

end FileTree

end DesignTokens
