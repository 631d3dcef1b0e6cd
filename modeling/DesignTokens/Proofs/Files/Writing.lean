import DesignTokens.ArtifactStore
import DesignTokens.Proofs.Files.Directories

/-!
# Writing artifacts

Artifacts with different names are written below a directory one after the other. This extends the
tree by the directories of the path and by files with the names of the artifacts. Done again it
writes what stands there already, up to the artifact that could not be written the first time.

-/

namespace DesignTokens

namespace FileTree

section WithFile

variable {tree : FileTree} {path directory : Path} {place : Place} {name : String}

theorem locate_child (rooted : tree.Rooted) (located : tree.locate directory = .ok place)
    (stands : tree.item? place = some .directory) (named : IsName name) :
    tree.locate (directory.child name) = .ok (place ++ [name]) := by
  rw [named.child, locate_concat rooted named.clean, located]
  change tree.enter name place = _
  rw [enter_of_directory stands, step, if_neg named.below]

theorem withFile_of_directory (located : tree.locate path = .ok place)
    (stands : tree.item? place = some .directory) (bytes : ByteArray) :
    tree.withFile path bytes = .error ⟨.isADirectory, path⟩ := by
  simp only [withFile, located, stands]

theorem withFile_of_solid (located : tree.locate path = .ok place)
    (solid : tree.item? place ≠ some .directory) (bytes : ByteArray) :
    tree.withFile path bytes = .ok (tree.put place (.file bytes)) := by
  cases item : tree.item? place with
  | none => simp only [withFile, located, item]
  | some stored =>
      cases stored with
      | file old => simp only [withFile, located, item]
      | directory => exact absurd item solid

end WithFile

section WriteText

variable {tree changed : FileTree} {path : Path} {text : List Text.CodePoint}

theorem run_writeText_of_error {fault : FileFault}
    (h : tree.withFile path (Text.writtenBytes text) = .error fault) :
    tree.run (writeText path text) = (.error fault, tree) := by
  rw [writeText, run_bind, run_writeBytes_of_error h]
  rfl

theorem run_writeText_of_bytes {bytes : ByteArray} (encoded : Text.utf8Bytes text = .ok bytes)
    (h : tree.withFile path (Text.writtenBytes text) = .ok changed) :
    tree.run (writeText path text) = (.ok (), changed) := by
  rw [writeText, run_bind, run_writeBytes_of_ok h, encoded]
  rfl

/-- A file is opened for a text that cannot be encoded, and is left as it then is. -/
theorem run_writeText_of_fault {cause : Text.EncodingFault}
    (refused : Text.utf8Bytes text = .error cause)
    (h : tree.withFile path (Text.writtenBytes text) = .ok changed) :
    tree.run (writeText path text) = (.error ⟨.unencodable cause, path⟩, changed) := by
  rw [writeText, run_bind, run_writeBytes_of_ok h, refused]
  rfl

end WriteText

section WriteInto

variable {tree changed old new : FileTree} {directory : Path} {file : TextFile}
  {files rest : List TextFile} {result : Except FileFault (List Path)}

theorem run_writeInto_cons_of_error (rest : List TextFile) {fault : FileFault}
    (h : tree.run (writeText (directory.child file.filename) file.text) =
      (.error fault, changed)) :
    tree.run (writeInto directory (file :: rest)) = (.error fault, changed) := by
  rw [writeInto, run_bind, h]
  rfl

theorem run_writeInto_cons_of_ok
    (h : tree.run (writeText (directory.child file.filename) file.text) = (.ok (), changed))
    (goes : changed.run (writeInto directory rest) = (result, new)) :
    tree.run (writeInto directory (file :: rest)) =
      (result.map (directory.child file.filename :: ·), new) := by
  rw [writeInto, run_bind, h]
  change changed.run (writeInto directory rest >>= _) = _
  rw [run_bind, goes]
  cases result <;> rfl

/-- What writing into a directory leaves: the tree is extended by files with the names of the
artifacts, and writing them again gives the same result and changes nothing. -/
structure Written (directory : Path) (files : List TextFile) (old : FileTree)
    (result : Except FileFault (List Path)) (new : FileTree) : Prop where
  grown : Extends [] (files.map TextFile.filename) old new
  again : new.run (writeInto directory files) = (result, new)

/-- The first artifact is met again as it was written, since no later one has its name. One whose
text cannot be encoded is met as an empty file, and fails again. -/
theorem written_of_run (rooted : old.Rooted) (stands : old.isDirectory directory = true)
    (named : ∀ file ∈ files, IsName file.filename)
    (apart : (files.map TextFile.filename).Nodup)
    (h : old.run (writeInto directory files) = (result, new)) :
    Written directory files old result new := by
  induction files generalizing old result new with
  | nil =>
      obtain ⟨rfl, rfl⟩ := Prod.mk.inj h
      exact ⟨extends_refl old, rfl⟩
  | cons file rest ih =>
      obtain ⟨place, located, item⟩ := isDirectory_iff.mp stands
      have own := named file List.mem_cons_self
      have below := locate_child rooted located item own
      have deep : place ++ [file.filename] ≠ [] := by simp
      have last : (place ++ [file.filename]).getLast? = some file.filename := by simp
      rw [List.map_cons, List.nodup_cons] at apart
      by_cases blocked : old.item? (place ++ [file.filename]) = some .directory
      · have refused := run_writeInto_cons_of_error rest
          (run_writeText_of_error (withFile_of_directory below blocked _))
        rw [refused] at h
        obtain ⟨rfl, rfl⟩ := Prod.mk.inj h
        exact ⟨extends_refl old, refused⟩
      · have wrote := withFile_of_solid below blocked (Text.writtenBytes file.text)
        have put : Extends [] (List.map TextFile.filename (file :: rest)) old
            (old.put (place ++ [file.filename]) (.file (Text.writtenBytes file.text))) :=
          extends_put deep (.put file.filename last List.mem_cons_self _ blocked _)
        -- What stands at the place of the artifact in a later tree is written there again.
        have repeated : ∀ after : FileTree, Extends [] (List.map TextFile.filename (file :: rest))
            old after →
            after.item? (place ++ [file.filename]) = some (.file (Text.writtenBytes file.text)) →
            after.withFile (directory.child file.filename) (Text.writtenBytes file.text) =
              .ok after := by
          intro after grown kept
          have again := withFile_of_solid (grown.locate_eq_ok below)
            (fun directory => nomatch kept.symm.trans directory) (Text.writtenBytes file.text)
          rwa [put_of_item?_eq_some deep kept] at again
        cases encoded : Text.utf8Bytes file.text with
        | error cause =>
            rw [run_writeInto_cons_of_error rest (run_writeText_of_fault encoded wrote)] at h
            obtain ⟨rfl, rfl⟩ := Prod.mk.inj h
            have again := repeated _ put (item?_put_self deep _ old)
            exact ⟨put, run_writeInto_cons_of_error rest (run_writeText_of_fault encoded again)⟩
        | ok bytes =>
            have first := run_writeText_of_bytes encoded wrote
            cases run : (old.put (place ++ [file.filename])
                (.file (Text.writtenBytes file.text))).run (writeInto directory rest) with
            | mk written after =>
                rw [run_writeInto_cons_of_ok first run] at h
                obtain ⟨rfl, rfl⟩ := Prod.mk.inj h
                have later := ih (put.rooted rooted) (put.isDirectory stands)
                  (fun other mem => named other (List.mem_cons_of_mem _ mem)) apart.2 run
                have kept : after.item? (place ++ [file.filename]) =
                    some (.file (Text.writtenBytes file.text)) := by
                  have change := later.grown.change (place ++ [file.filename])
                  rw [item?_put_self deep] at change
                  apply change.item
                  rw [last]
                  rintro _ ⟨⟩
                  exact apart.1
                have grown := put.trans (later.grown.mono (List.Subset.refl [])
                  (List.subset_cons_self _ _))
                have again := run_writeText_of_bytes encoded (repeated after grown kept)
                exact ⟨grown, run_writeInto_cons_of_ok again later.again⟩

end WriteInto

section WriteArtifacts

variable {old new : FileTree} {directory : Path} {files : List TextFile}
  {result : Except FileFault (List Path)}

theorem run_writeArtifacts_of_error {fault : FileFault} {changed : FileTree}
    (h : old.run (makeDirectories directory) = (.error fault, changed)) :
    old.run (writeArtifacts directory files) = (.error fault, changed) := by
  rw [writeArtifacts, run_bind, h]
  rfl

theorem run_writeArtifacts_of_ok {changed : FileTree}
    (h : old.run (makeDirectories directory) = (.ok (), changed)) :
    old.run (writeArtifacts directory files) = changed.run (writeInto directory files) := by
  rw [writeArtifacts, run_bind, h]

/-- What writing artifacts leaves: the tree is extended by directories with names of the path and
by files with the names of the artifacts. Writing them again changes nothing, and gives the same
result if the directory could be made. -/
structure Stored (directory : Path) (files : List TextFile) (old : FileTree)
    (result : Except FileFault (List Path)) (new : FileTree) : Prop where
  grown : Extends directory.parts (files.map TextFile.filename) old new
  again : ∃ other, new.run (writeArtifacts directory files) = (other, new) ∧
    ∀ written, result = .ok written → other = .ok written

theorem stored_of_run (rooted : old.Rooted) (named : ∀ file ∈ files, IsName file.filename)
    (apart : (files.map TextFile.filename).Nodup)
    (h : old.run (writeArtifacts directory files) = (result, new)) :
    Stored directory files old result new := by
  cases run : old.run (makeDirectories directory) with
  | mk made between =>
      have made_once := made_of_run rooted run
      have upper := made_once.grown.mono (List.Subset.refl _)
        (List.nil_subset (files.map TextFile.filename))
      cases made with
      | error fault =>
          rw [run_writeArtifacts_of_error run] at h
          obtain ⟨rfl, rfl⟩ := Prod.mk.inj h
          obtain ⟨-, other, again⟩ := made_once.refused fault rfl
          exact ⟨upper, _, run_writeArtifacts_of_error again, nofun⟩
      | ok done =>
          rw [run_writeArtifacts_of_ok run] at h
          have stands := made_once.stands rfl
          have written := written_of_run (made_once.grown.rooted rooted) stands named apart h
          have lower := written.grown.mono (List.nil_subset directory.parts) (List.Subset.refl _)
          have still := makeDirectoriesWithin_of_isDirectory directory.parts.length
            (lower.isDirectory stands)
          refine ⟨upper.trans lower, result, ?_, fun _ same => same⟩
          rw [run_writeArtifacts_of_ok still]
          exact written.again

end WriteArtifacts

end FileTree

end DesignTokens
