import DesignTokens.Proofs.Files.Growth
import DesignTokens.Proofs.Files.Runs

/-!
# Making directories

A directory is made together with those that are missing above it. This extends the tree by
directories with names of the path. Done again it changes nothing: if it went well the directory
is there, and if not, what was in its way is in its way still.

-/

namespace DesignTokens

namespace FileTree

variable {tree : FileTree} {path : Path} {place : Place}

section Settled

theorem problem_eq_notFound_iff {fault : FileFault} (h : tree.withDirectory path = .error fault) :
    fault.problem = .notFound ↔ tree.locate path = .error .notFound := by
  unfold withDirectory at h
  cases located : tree.locate path with
  | error problem =>
      rw [located] at h
      rw [← Except.error.inj h, Except.error.injEq]
  | ok place =>
      rw [located] at h
      cases item : tree.item? place with
      | none =>
          simp only [item] at h
          cases h
      | some stored =>
          simp only [item] at h
          rw [← Except.error.inj h]
          exact iff_of_false nofun nofun

/-- Make one directory in a directory that exists, unless there is one. -/
def settled (path : Path) (tree : FileTree) : Except FileFault Unit × FileTree :=
  match tree.withDirectory path with
  | .ok changed => (.ok (), changed)
  | .error fault =>
    (if fault.problem ≠ .notFound ∧ tree.isDirectory path = true then .ok () else .error fault,
      tree)

theorem run_settleDirectory (path : Path) (fault : FileFault) (tree : FileTree) :
    tree.run (settleDirectory path (.error fault)) =
      (if fault.problem ≠ .notFound ∧ tree.isDirectory path = true then .ok () else .error fault,
        tree) := by
  by_cases missing : fault.problem = .notFound
  · simp only [settleDirectory, missing, if_true, ne_eq, not_true_eq_false, false_and, if_false]
    rfl
  · simp only [settleDirectory, missing, if_false, ne_eq, not_false_eq_true, true_and]
    change (if tree.isDirectory path = true then pure (Except.ok ()) else pure (.error fault) :
      StateM FileTree (Except FileFault Unit)) tree = _
    split <;> rfl

theorem run_settleDirectory_of_error {fault : FileFault}
    (h : tree.withDirectory path = .error fault) :
    tree.run (settleDirectory path (.error fault)) = settled path tree := by
  rw [run_settleDirectory, settled, h]

theorem run_makeDirectory_settleDirectory (path : Path) (tree : FileTree) :
    tree.run (FileStore.makeDirectory path >>= settleDirectory path) = settled path tree := by
  rw [run_bind]
  cases h : tree.withDirectory path with
  | ok changed =>
      rw [run_makeDirectory_of_ok h, settled, h]
      rfl
  | error fault =>
      rw [run_makeDirectory_of_error h]
      exact run_settleDirectory_of_error h

theorem not_isDirectory_of_locate_eq_error {problem : FileProblem}
    (h : tree.locate path = .error problem) : tree.isDirectory path = false := by
  rw [← Bool.not_eq_true, isDirectory_iff]
  rintro ⟨place, located, -⟩
  rw [h] at located
  cases located

theorem settled_of_locate_eq_error {problem : FileProblem}
    (h : tree.locate path = .error problem) :
    settled path tree = (.error ⟨problem, path⟩, tree) := by
  simp [settled, withDirectory, h, not_isDirectory_of_locate_eq_error h]

theorem settled_of_vacant (h : tree.locate path = .ok place) (vacant : tree.item? place = none) :
    settled path tree = (.ok (), tree.put place .directory) := by
  simp only [settled, withDirectory, h, vacant]

theorem settled_of_isDirectory (stands : tree.isDirectory path = true) :
    settled path tree = (.ok (), tree) := by
  obtain ⟨place, located, item⟩ := isDirectory_iff.mp stands
  simp [settled, withDirectory, located, item, stands]

theorem settled_of_file {bytes : ByteArray} (h : tree.locate path = .ok place)
    (item : tree.item? place = some (.file bytes)) :
    tree.isDirectory path = false ∧
      settled path tree = (.error ⟨.alreadyExists, path⟩, tree) := by
  have absent : tree.isDirectory path = false := by
    rw [← Bool.not_eq_true, isDirectory_iff]
    rintro ⟨other, located, directory⟩
    obtain rfl : place = other := Except.ok.inj (h.symm.trans located)
    rw [item] at directory
    cases directory
  exact ⟨absent, by simp [settled, withDirectory, h, item, absent]⟩

end Settled

section MakeDirectories

theorem makeDirectoriesWithin_zero (path : Path) (tree : FileTree) :
    tree.run (makeDirectoriesWithin 0 path) = settled path tree := by
  rw [makeDirectoriesWithin, run_bind]
  cases h : tree.withDirectory path with
  | ok changed =>
      rw [run_makeDirectory_of_ok h, settled, h]
      rfl
  | error fault =>
      rw [run_makeDirectory_of_error h]
      exact run_settleDirectory_of_error h

/-- Where a directory above a path is missing, it is made first, and the directory itself then only
if this went well. -/
theorem makeDirectoriesWithin_succ (depth : Nat) (path : Path) (tree : FileTree) :
    tree.run (makeDirectoriesWithin (depth + 1) path) =
      if tree.locate path = .error .notFound ∧ path.parts ≠ [] then
        match tree.run (makeDirectoriesWithin depth path.parent) with
        | (.error above, changed) => (.error above, changed)
        | (.ok (), changed) => settled path changed
      else settled path tree := by
  rw [makeDirectoriesWithin, run_bind]
  cases h : tree.withDirectory path with
  | ok changed =>
      have found : tree.locate path ≠ .error .notFound := fun missing => by
        rw [withDirectory, missing] at h
        cases h
      rw [run_makeDirectory_of_ok h, if_neg fun both => found both.1, settled, h]
      rfl
  | error fault =>
      rw [run_makeDirectory_of_error h]
      simp only [← problem_eq_notFound_iff h]
      by_cases above : fault.problem = .notFound ∧ path.parts ≠ []
      · simp only [if_pos above]
        rw [run_bind]
        cases tree.run (makeDirectoriesWithin depth path.parent) with
        | mk result changed =>
            cases result with
            | error fault => rfl
            | ok done => exact run_makeDirectory_settleDirectory path changed
      · simp only [if_neg above]
        exact run_settleDirectory_of_error h

end MakeDirectories

section Made

variable {old new : FileTree} {result : Except FileFault Unit}

/-- Making one directory adds it, unless it is there; else it is not there and nothing changes. -/
theorem settled_spec (rooted : old.Rooted) (h : settled path old = (result, new)) :
    Extends path.parts [] old new ∧ (result = .ok () → new.isDirectory path = true) ∧
      ∀ fault, result = .error fault → new = old ∧ old.isDirectory path = false := by
  cases located : old.locate path with
  | error problem =>
      rw [settled_of_locate_eq_error located] at h
      obtain ⟨rfl, rfl⟩ := Prod.mk.inj h
      exact ⟨extends_refl old, nofun,
        fun _ _ => ⟨rfl, not_isDirectory_of_locate_eq_error located⟩⟩
  | ok place =>
      cases item : old.item? place with
      | none =>
          rw [settled_of_vacant located item] at h
          obtain ⟨rfl, rfl⟩ := Prod.mk.inj h
          obtain ⟨name, named, last⟩ := rooted.getLast?_of_solid located fun stands => by
            rw [item] at stands
            cases stands
          have mem : name ∈ path.parts := List.mem_of_getLast? named
          have below : place ≠ [] := by
            rintro rfl
            cases last
          have grown : Extends path.parts [] old (old.put place .directory) :=
            extends_put below (item ▸ .added name last mem)
          exact ⟨grown, fun _ => isDirectory_iff.mpr
            ⟨place, grown.locate_eq_ok located, item?_put_self below _ old⟩, nofun⟩
      | some stored =>
          cases stored with
          | file bytes =>
              obtain ⟨absent, run⟩ := settled_of_file located item
              rw [run] at h
              obtain ⟨rfl, rfl⟩ := Prod.mk.inj h
              exact ⟨extends_refl old, nofun, fun _ _ => ⟨rfl, absent⟩⟩
          | directory =>
              have stands : old.isDirectory path = true :=
                isDirectory_iff.mpr ⟨place, located, item⟩
              rw [settled_of_isDirectory stands] at h
              obtain ⟨rfl, rfl⟩ := Prod.mk.inj h
              exact ⟨extends_refl old, fun _ => stands, nofun⟩

/-- What making a directory leaves: the tree is extended by directories with names of the path.
Either the directory is there, or it is not and making it again fails and changes nothing. -/
structure Made (depth : Nat) (path : Path) (old : FileTree) (result : Except FileFault Unit)
    (new : FileTree) : Prop where
  grown : Extends path.parts [] old new
  stands : result = .ok () → new.isDirectory path = true
  refused : ∀ fault, result = .error fault → new.isDirectory path = false ∧
    ∃ again, new.run (makeDirectoriesWithin depth path) = (.error again, new)

/-- A run that makes one directory only leaves what this one leaves. -/
theorem made_of_settled (rooted : old.Rooted) {depth : Nat}
    (run : old.run (makeDirectoriesWithin depth path) = settled path old)
    (h : settled path old = (result, new)) : Made depth path old result new := by
  obtain ⟨grown, stands, refused⟩ := settled_spec rooted h
  refine ⟨grown, stands, fun fault failed => ?_⟩
  obtain ⟨rfl, absent⟩ := refused fault failed
  subst failed
  exact ⟨absent, fault, run.trans h⟩

/-- A directory that stands is not made again. -/
theorem makeDirectoriesWithin_of_isDirectory (depth : Nat) (stands : tree.isDirectory path = true) :
    tree.run (makeDirectoriesWithin depth path) = (.ok (), tree) := by
  rw [← settled_of_isDirectory stands]
  cases depth with
  | zero => exact makeDirectoriesWithin_zero path tree
  | succ depth =>
      rw [makeDirectoriesWithin_succ, if_neg]
      rintro ⟨missing, -⟩
      rw [not_isDirectory_of_locate_eq_error missing] at stands
      cases stands

section Below

variable {depth : Nat} {anchor : Anchor} {names : List String} {name : String} {fault : FileFault}

theorem parent_concat :
    Path.parent ⟨anchor, names ++ [name]⟩ = ⟨anchor, names⟩ := by
  simp [Path.parent]

/-- A name that is refused at once is not looked for. -/
theorem clean_of_locate_eq_notFound
    (h : tree.locate ⟨anchor, names ++ [name]⟩ = .error .notFound) :
    name.toList.contains '\x00' = false := by
  by_contra nul
  rw [Bool.not_eq_false] at nul
  rw [locate, if_pos (by rw [hasNul_concat, nul, Bool.or_true])] at h
  cases h

/-- Below a directory that cannot be made none can be made. -/
theorem Made.refused_below (made : Made depth ⟨anchor, names⟩ old (.error fault) new)
    (rooted : new.Rooted) :
    new.isDirectory ⟨anchor, names ++ [name]⟩ = false ∧
      ∃ again, new.run (makeDirectoriesWithin (depth + 1) ⟨anchor, names ++ [name]⟩) =
        (.error again, new) := by
  obtain ⟨absent, again, run⟩ := made.refused fault rfl
  cases located : new.locate ⟨anchor, names ++ [name]⟩ with
  | ok place =>
      obtain ⟨above, found, stands, -⟩ := exists_of_locate_concat_eq_ok rooted located
      rw [isDirectory_iff.mpr ⟨above, found, stands⟩] at absent
      cases absent
  | error problem =>
      refine ⟨not_isDirectory_of_locate_eq_error located, ?_⟩
      rw [makeDirectoriesWithin_succ]
      split
      · rw [parent_concat, run]
        exact ⟨again, rfl⟩
      · rw [settled_of_locate_eq_error located]
        exact ⟨_, rfl⟩

/-- Below a directory that stands only the last one is made. -/
theorem makeDirectoriesWithin_of_parent (depth : Nat) (rooted : tree.Rooted)
    (stands : tree.isDirectory ⟨anchor, names⟩ = true)
    (clean : name.toList.contains '\x00' = false) :
    tree.run (makeDirectoriesWithin (depth + 1) ⟨anchor, names ++ [name]⟩) =
      settled ⟨anchor, names ++ [name]⟩ tree := by
  obtain ⟨above, located, directory⟩ := isDirectory_iff.mp stands
  have found : tree.locate ⟨anchor, names ++ [name]⟩ = .ok (step above name) := by
    rw [locate_concat rooted clean, located]
    exact enter_of_directory directory name
  rw [makeDirectoriesWithin_succ, if_neg]
  rintro ⟨missing, -⟩
  rw [found] at missing
  cases missing

end Below

/-- A run makes the directory that is missing at the top first, and goes on below it. -/
theorem made_of_run (rooted : old.Rooted) {depth : Nat}
    (h : old.run (makeDirectoriesWithin depth path) = (result, new)) :
    Made depth path old result new := by
  induction depth generalizing path result new with
  | zero =>
      have run := makeDirectoriesWithin_zero path old
      exact made_of_settled rooted run (run.symm.trans h)
  | succ depth ih =>
      have run := makeDirectoriesWithin_succ depth path old
      by_cases above : old.locate path = .error .notFound ∧ path.parts ≠ []
      case neg =>
          rw [if_neg above] at run
          exact made_of_settled rooted run (run.symm.trans h)
      case pos =>
          rw [run, if_pos above] at h
          obtain ⟨anchor, names⟩ := path
          rcases List.eq_nil_or_concat names with rfl | ⟨names, name, rfl⟩
          · exact absurd rfl above.2
          rw [List.concat_eq_append] at *
          rw [parent_concat] at h
          have clean := clean_of_locate_eq_notFound above.1
          cases first : old.run (makeDirectoriesWithin depth ⟨anchor, names⟩) with
          | mk made between =>
              rw [first] at h
              have parent := ih first
              have rooted := parent.grown.rooted rooted
              have within : names ⊆ names ++ [name] := List.subset_append_left _ _
              have upper := parent.grown.mono within (List.Subset.refl [])
              cases made with
              | error fault =>
                  obtain ⟨rfl, rfl⟩ := Prod.mk.inj h
                  exact ⟨upper, nofun, fun _ _ => parent.refused_below rooted⟩
              | ok done =>
                  have stands := parent.stands rfl
                  have again := makeDirectoriesWithin_of_parent depth rooted stands clean
                  have lower := made_of_settled rooted again h
                  exact ⟨upper.trans lower.grown, lower.stands, lower.refused⟩

end Made

end FileTree

end DesignTokens
