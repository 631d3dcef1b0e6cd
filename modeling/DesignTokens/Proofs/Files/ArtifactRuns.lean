import DesignTokens.Proofs.Files.Ancestors
import DesignTokens.Proofs.Files.Writing

/-!
# What writing artifacts leaves

Whatever stands in a tree and however artifacts are named, they are written one after the other
until one cannot be written. What then stands at a place is the last artifact whose path leads
there, and every other place is left alone but for the directories on the way to the target. An
artifact whose file cannot be opened leaves nothing, and one whose text cannot be encoded leaves
an empty file, since its file is opened first.

## Implementation notes

Two paths may lead to one place, as `out/x` and `out/css/../x` do, so what is kept is said place by
place. A path that leads to a place goes on leading there, so it is followed in the tree that the
run leaves.

-/

namespace DesignTokens

/-- The path that an artifact is written to. -/
def artifactPath (directory : Path) (file : TextFile) : Path :=
  directory.child file.filename

theorem Text.writtenBytes_of_bytes {text : List CodePoint} {bytes : ByteArray}
    (encoded : utf8Bytes text = .ok bytes) : writtenBytes text = bytes := by
  rw [writtenBytes, encoded]

namespace FileTree

variable {old between new tree : FileTree} {directory path : Path} {place : Place}
  {file : TextFile} {files front rest : List TextFile} {bytes : ByteArray} {fault : FileFault}

/-- The last of some artifacts whose path leads to a place. -/
def lastAt? (tree : FileTree) (directory : Path) (place : Place) (files : List TextFile) :
    Option TextFile :=
  (files.filter fun file => tree.locate (artifactPath directory file) = .ok place).getLast?

/-- The last of some artifacts with a path. -/
def lastNamed? (directory path : Path) (files : List TextFile) : Option TextFile :=
  (files.filter fun file => artifactPath directory file = path).getLast?

/-- Where only one path leads, the last artifact is the last one with this path. -/
theorem lastAt?_eq_lastNamed? (leads : tree.locate path = .ok place)
    (alone : ∀ file ∈ files, tree.locate (artifactPath directory file) = .ok place →
      artifactPath directory file = path) :
    tree.lastAt? directory place files = lastNamed? directory path files := by
  rw [lastAt?, lastNamed?]
  congr 1
  apply List.filter_congr
  intro file mem
  rw [decide_eq_decide]
  refine ⟨alone file mem, ?_⟩
  rintro rfl
  exact leads

theorem lastAt?_nil (tree : FileTree) (directory : Path) (place : Place) :
    tree.lastAt? directory place [] = none := rfl

theorem lastAt?_cons_of_leads (leads : tree.locate (artifactPath directory file) = .ok place)
    (rest : List TextFile) :
    tree.lastAt? directory place (file :: rest) =
      some ((tree.lastAt? directory place rest).getD file) := by
  rw [lastAt?, List.filter_cons_of_pos (by simpa using leads), List.getLast?_cons]
  rfl

theorem lastAt?_cons_of_apart (apart : tree.locate (artifactPath directory file) ≠ .ok place)
    (rest : List TextFile) :
    tree.lastAt? directory place (file :: rest) = tree.lastAt? directory place rest := by
  rw [lastAt?, List.filter_cons_of_neg (by simpa using apart)]
  rfl

theorem lastAt?_eq_none_iff :
    tree.lastAt? directory place files = none ↔
      ∀ file ∈ files, tree.locate (artifactPath directory file) ≠ .ok place := by
  rw [lastAt?, List.getLast?_eq_none_iff, List.filter_eq_nil_iff]
  simp only [decide_eq_true_eq, ne_eq]

section WithFile

theorem withFile_eq_ok_iff :
    tree.withFile path bytes = .ok new ↔
      ∃ place, tree.locate path = .ok place ∧ tree.item? place ≠ some .directory ∧
        new = tree.put place (.file bytes) := by
  constructor
  · intro wrote
    unfold withFile at wrote
    split at wrote
    case h_1 => cases wrote
    case h_2 place located =>
        split at wrote
        case h_1 => cases wrote
        case h_2 solid => exact ⟨place, located, solid, (Except.ok.inj wrote).symm⟩
  · rintro ⟨place, located, solid, rfl⟩
    exact withFile_of_solid located solid bytes

theorem ne_nil_of_solid (solid : tree.item? place ≠ some .directory) : place ≠ [] := by
  rintro rfl
  exact solid (item?_root tree)

theorem keepsDirectories_put_file (solid : tree.item? place ≠ some .directory)
    (bytes : ByteArray) : KeepsDirectories tree (tree.put place (.file bytes)) := by
  refine ⟨rfl, fun other stands => ?_⟩
  have apart : other ≠ place := by
    rintro rfl
    exact solid stands
  rwa [item?_put_of_ne apart]

/-- A file that cannot be opened cannot be opened for any other content, and the system reports
this unless it is not asked. -/
theorem of_withFile_eq_error (refused : tree.withFile path bytes = .error fault) :
    (∀ other, tree.withFile path other = .error fault) ∧
      (fault.isReported = true ↔ path.hasNul = false) := by
  cases located : tree.locate path with
  | error problem =>
      simp only [withFile, located] at refused ⊢
      cases refused
      exact ⟨fun _ => rfl, report?_of_locate_eq_error located⟩
  | ok place =>
      by_cases stands : tree.item? place = some .directory
      · rw [withFile_of_directory located stands] at refused
        cases refused
        exact ⟨withFile_of_directory located stands,
          iff_of_true rfl (hasNul_of_locate_eq_ok located)⟩
      · rw [withFile_of_solid located stands] at refused
        cases refused

end WithFile

section Writes

/-- The artifacts are written in their order, each where its path leads by then. -/
inductive Writes (directory : Path) : List TextFile → FileTree → FileTree → Prop
  | nil (tree : FileTree) : Writes directory [] tree tree
  | cons {file : TextFile} {rest : List TextFile} {old between new : FileTree} {bytes : ByteArray}
      (encoded : Text.utf8Bytes file.text = .ok bytes)
      (wrote : old.withFile (artifactPath directory file) (Text.writtenBytes file.text) =
        .ok between)
      (later : Writes directory rest between new) : Writes directory (file :: rest) old new

theorem Writes.keepsDirectories (writes : Writes directory files old new) :
    KeepsDirectories old new := by
  induction writes with
  | nil tree => exact keepsDirectories_refl tree
  | cons _ wrote _ ih =>
      obtain ⟨place, -, solid, rfl⟩ := withFile_eq_ok_iff.mp wrote
      exact (keepsDirectories_put_file solid _).trans ih

theorem Writes.exists_locate (writes : Writes directory files old new) :
    ∀ file ∈ files, ∃ place, new.locate (artifactPath directory file) = .ok place := by
  induction writes with
  | nil => exact List.forall_mem_nil _
  | cons _ wrote later ih =>
      obtain ⟨place, located, solid, rfl⟩ := withFile_eq_ok_iff.mp wrote
      have kept := (keepsDirectories_put_file solid _).trans later.keepsDirectories
      exact List.forall_mem_cons.mpr ⟨⟨place, kept.locate_eq_ok located⟩, ih⟩

theorem Writes.exists_utf8Bytes (writes : Writes directory files old new) :
    ∀ file ∈ files, ∃ bytes, Text.utf8Bytes file.text = .ok bytes := by
  induction writes with
  | nil => exact List.forall_mem_nil _
  | cons encoded _ _ ih => exact List.forall_mem_cons.mpr ⟨⟨_, encoded⟩, ih⟩

/-- A place holds the last artifact whose path leads there, or what it held before. -/
theorem Writes.item? (writes : Writes directory files old new) (place : Place) :
    new.item? place =
      ((new.lastAt? directory place files).map fun file =>
        .file (Text.writtenBytes file.text)).or (old.item? place) := by
  induction writes with
  | nil tree => rw [lastAt?_nil, Option.map_none, Option.none_or]
  | cons _ wrote later ih =>
      obtain ⟨own, located, solid, rfl⟩ := withFile_eq_ok_iff.mp wrote
      -- The later writes keep all directories, so the path leads there in the final tree as well.
      have kept := (keepsDirectories_put_file solid _).trans later.keepsDirectories
      have leads := kept.locate_eq_ok located
      by_cases here : own = place
      · subst here
        rw [ih, lastAt?_cons_of_leads leads, item?_put_self (ne_nil_of_solid solid)]
        cases FileTree.lastAt? _ directory own _ <;> rfl
      · have apart := fun other => here (Except.ok.inj (leads.symm.trans other))
        rw [ih, lastAt?_cons_of_apart apart, item?_put_of_ne (Ne.symm here)]

/-- The path of an artifact leads to the last artifact that is written there. -/
theorem Writes.exists_last (writes : Writes directory files old new) (mem : file ∈ files) :
    ∃ place last bytes, new.locate (artifactPath directory file) = .ok place ∧
      new.lastAt? directory place files = some last ∧ Text.utf8Bytes last.text = .ok bytes ∧
      new.item? place = some (.file bytes) := by
  obtain ⟨place, leads⟩ := writes.exists_locate file mem
  have found : new.lastAt? directory place files ≠ none := fun none =>
    lastAt?_eq_none_iff.mp none file mem leads
  obtain ⟨last, here⟩ := Option.ne_none_iff_exists'.mp found
  have among : last ∈ files := (List.mem_filter.mp (List.mem_of_getLast? here)).1
  obtain ⟨bytes, encoded⟩ := writes.exists_utf8Bytes last among
  refine ⟨place, last, bytes, leads, here, encoded, ?_⟩
  rw [writes.item? place, here, Option.map_some, Option.some_or,
    Text.writtenBytes_of_bytes encoded]

theorem Writes.run_eq (writes : Writes directory files old new) :
    old.run (writeInto directory files) = (.ok (files.map (artifactPath directory)), new) := by
  induction writes with
  | nil => rfl
  | cons encoded wrote _ ih =>
      exact run_writeInto_cons_of_ok (run_writeText_of_bytes encoded wrote) ih

end Writes

section Stops

/-- How a run stops at an artifact: the file cannot be opened, whatever its content, and nothing is
changed; or the text has a surrogate and cannot be encoded, and an empty file is left. -/
inductive StopsAt (directory : Path) (file : TextFile) (between : FileTree) :
    FileFault → FileTree → Prop
  | unopened {fault : FileFault}
      (refused : ∀ bytes, between.withFile (artifactPath directory file) bytes = .error fault)
      (told : fault.isReported = true ↔ (artifactPath directory file).hasNul = false) :
      StopsAt directory file between fault between
  | unencoded {cause : Text.EncodingFault} {place : Place} {new : FileTree}
      (refused : Text.utf8Bytes file.text = .error cause)
      (lone : ∃ point ∈ file.text, point.isSurrogate = true)
      (leads : between.locate (artifactPath directory file) = .ok place)
      (emptied : new.item? place = some (.file .empty))
      (others : ∀ other, other ≠ place → new.item? other = between.item? other) :
      StopsAt directory file between ⟨.unencodable cause, artifactPath directory file⟩ new

/-- An artifact is written, or the run stops at it. -/
theorem writes_or_stopsAt (directory : Path) (file : TextFile) (old : FileTree) :
    (∃ bytes new, Text.utf8Bytes file.text = .ok bytes ∧
      old.withFile (artifactPath directory file) (Text.writtenBytes file.text) = .ok new) ∨
    ∃ fault new, StopsAt directory file old fault new ∧
      old.run (writeText (artifactPath directory file) file.text) = (.error fault, new) := by
  cases wrote : old.withFile (artifactPath directory file) (Text.writtenBytes file.text) with
  | error fault =>
      obtain ⟨refused, told⟩ := of_withFile_eq_error wrote
      exact .inr ⟨fault, old, .unopened refused told, run_writeText_of_error wrote⟩
  | ok new =>
      cases encoded : Text.utf8Bytes file.text with
      | ok bytes => exact .inl ⟨bytes, new, rfl, rfl⟩
      | error cause =>
          refine .inr ⟨_, new, ?_, run_writeText_of_fault encoded wrote⟩
          obtain ⟨place, located, solid, rfl⟩ := withFile_eq_ok_iff.mp wrote
          have empty : Text.writtenBytes file.text = .empty := by
            rw [Text.writtenBytes, encoded]
          have emptied := item?_put_self (ne_nil_of_solid solid) (.file .empty) old
          rw [empty]
          exact .unencoded encoded (Text.exists_surrogate_of_utf8Bytes encoded) located emptied
            fun other apart => item?_put_of_ne apart _ old

/-- A run writes all artifacts, or those before the first one that it stops at. -/
theorem writes_or_stops (directory : Path) (files : List TextFile) (old : FileTree) :
    (∃ new, Writes directory files old new) ∨
    ∃ front file rest between fault new, files = front ++ file :: rest ∧
      Writes directory front old between ∧ StopsAt directory file between fault new ∧
      old.run (writeInto directory files) = (.error fault, new) := by
  induction files generalizing old with
  | nil => exact .inl ⟨old, .nil old⟩
  | cons file rest ih =>
      rcases writes_or_stopsAt directory file old with
        ⟨bytes, between, encoded, wrote⟩ | ⟨fault, new, stops, run⟩
      · rcases ih between with
          ⟨new, later⟩ | ⟨front, stop, more, upTo, fault, new, rfl, later, stops, run⟩
        · exact .inl ⟨new, .cons encoded wrote later⟩
        · exact .inr ⟨file :: front, stop, more, upTo, fault, new, rfl,
            .cons encoded wrote later, stops,
            run_writeInto_cons_of_ok (run_writeText_of_bytes encoded wrote) run⟩
      · exact .inr ⟨[], file, rest, old, fault, new, rfl, .nil old, stops,
          run_writeInto_cons_of_error rest run⟩

end Stops

/-- What a run that goes well leaves: the target is a directory, like all that its path passes;
every path of an artifact leads to the last artifact that is written there, which is the last one
with this path unless another spelling of it is given; and where none of the paths leads everything
is as before, but for the directories that were missing on the way. -/
structure Delivered (directory : Path) (files : List TextFile) (old new : FileTree) : Prop where
  current : new.current = old.current
  target : new.isDirectory directory = true
  above : ∀ names, names ≠ [] → names <+: directory.parts →
    new.isDirectory ⟨directory.anchor, names⟩ = true
  encoded : ∀ file ∈ files, ∃ bytes, Text.utf8Bytes file.text = .ok bytes
  held : ∀ file ∈ files, ∃ place last bytes,
    new.locate (artifactPath directory file) = .ok place ∧
    new.lastAt? directory place files = some last ∧ Text.utf8Bytes last.text = .ok bytes ∧
    new.item? place = some (.file bytes)
  named : ∀ file ∈ files, (∀ other ∈ files, new.locate (artifactPath directory other) =
      new.locate (artifactPath directory file) →
        artifactPath directory other = artifactPath directory file) →
    ∃ last bytes, lastNamed? directory (artifactPath directory file) files = some last ∧
      Text.utf8Bytes last.text = .ok bytes ∧
      new.lookup (artifactPath directory file) = .ok (.file bytes)
  other : ∀ place, (∀ file ∈ files, new.locate (artifactPath directory file) ≠ .ok place) →
    new.item? place = old.item? place ∨
    old.item? place = none ∧ new.item? place = some .directory ∧ OnTheWay directory new place

theorem Writes.delivered (added : AddsDirectories directory old between)
    (stands : between.isDirectory directory = true) (writes : Writes directory files between new) :
    Delivered directory files old new where
  current := writes.keepsDirectories.current.trans added.current
  target := writes.keepsDirectories.isDirectory stands
  above _ some_names prefixed :=
    isDirectory_of_prefix (writes.keepsDirectories.isDirectory stands) some_names prefixed
  encoded := writes.exists_utf8Bytes
  held _ mem := writes.exists_last mem
  named := by
    intro file mem alone
    obtain ⟨place, last, bytes, leads, here, encoded, stands⟩ := writes.exists_last mem
    rw [leads] at alone
    exact ⟨last, bytes, (lastAt?_eq_lastNamed? leads alone).symm.trans here, encoded,
      lookup_eq_ok_iff.mpr ⟨place, leads, stands⟩⟩
  other := by
    intro place apart
    rw [writes.item? place, lastAt?_eq_none_iff.mpr apart, Option.map_none, Option.none_or]
    refine (added.change place).imp_right fun ⟨vacant, directory, way⟩ => ?_
    exact ⟨vacant, directory, way.mono rfl (List.prefix_refl _) writes.keepsDirectories⟩

/-- Artifacts are written in their order up to the first that cannot be written. A run that stops
at an artifact leaves what a run on those before it leaves, and an empty file if the text of the
artifact cannot be encoded; one that cannot make its directory leaves every file as it is. -/
theorem writeArtifacts_writes_prefix (tree : FileTree) (directory : Path)
    (files : List TextFile) :
    match tree.run (writeArtifacts directory files) with
    | (.ok written, new) =>
        written = files.map (artifactPath directory) ∧ Delivered directory files tree new
    | (.error fault, new) =>
        (tree.run (makeDirectories directory) = (.error fault, new) ∧
          AddsDirectories directory tree new ∧
          ∀ place bytes, new.item? place = some (.file bytes) ↔
            tree.item? place = some (.file bytes)) ∨
        ∃ front file rest between, files = front ++ file :: rest ∧
          tree.run (writeArtifacts directory front) =
            (.ok (front.map (artifactPath directory)), between) ∧
          Delivered directory front tree between ∧
          StopsAt directory file between fault new := by
  cases made : tree.run (makeDirectories directory) with
  | mk result opened =>
      obtain ⟨added, stands⟩ := addsDirectories_of_run made
      cases result with
      | error fault =>
          rw [run_writeArtifacts_of_error made]
          exact .inl ⟨rfl, added, fun _ _ => added.item?_eq_file_iff⟩
      | ok done =>
          have goes : ∀ files, tree.run (writeArtifacts directory files) =
              opened.run (writeInto directory files) := fun _ => run_writeArtifacts_of_ok made
          rw [goes]
          rcases writes_or_stops directory files opened with
            ⟨new, writes⟩ | ⟨front, file, rest, between, fault, new, rfl, writes, stops, run⟩
          · rw [writes.run_eq]
            exact ⟨rfl, writes.delivered added (stands rfl)⟩
          · rw [run]
            exact .inr ⟨front, file, rest, between, rfl, (goes front).trans writes.run_eq,
              writes.delivered added (stands rfl), stops⟩

section Unwritten

/-- A directory with a style sheet and a directory below it. -/
def outTree : FileTree where
  items := [(["work"], .directory), (["work", "out"], .directory),
    (["work", "out", "css"], .directory), (["work", "out", "x"], .file "old".toUTF8)]
  current := ["work"]

/-- The path of the directory. -/
def outPath : Path :=
  ⟨.here, ["out"]⟩

/-- Two artifacts with one place and two paths. -/
def twoSpellings : List TextFile :=
  [⟨"x", Text.codePoints "A"⟩, ⟨"css/../x", Text.codePoints "B"⟩]

/-- An artifact whose text is a surrogate. -/
def loneSurrogate : TextFile :=
  ⟨"x", [.surrogate 0]⟩

/-- The path of the artifacts. -/
def sheetPath : Path :=
  ⟨.here, ["out", "x"]⟩

/-- The first path does not hold the last artifact with this path. A text that cannot be encoded
empties the file of its artifact, and the system reports nothing. -/
theorem writeArtifacts_outTree :
    (outTree.run (writeArtifacts outPath twoSpellings)).1 =
      .ok [sheetPath, ⟨.here, ["out", "css", "..", "x"]⟩] ∧
    lastNamed? outPath sheetPath twoSpellings = some ⟨"x", Text.codePoints "A"⟩ ∧
    (outTree.run (writeArtifacts outPath twoSpellings)).2.readBytes sheetPath =
      .ok "B".toUTF8 ∧
    (outTree.run (writeArtifacts outPath [loneSurrogate])).1 =
      .error ⟨.unencodable ⟨0, 1, 0⟩, sheetPath⟩ ∧
    FileFault.isReported ⟨.unencodable ⟨0, 1, 0⟩, sheetPath⟩ = false ∧
    outTree.readBytes sheetPath = .ok "old".toUTF8 ∧
    (outTree.run (writeArtifacts outPath [loneSurrogate])).2.readBytes sheetPath =
      .ok .empty := by
  refine ⟨?_, ?_, ?_, ?_, rfl, ?_, ?_⟩ <;> decide +kernel

end Unwritten

end FileTree

end DesignTokens
