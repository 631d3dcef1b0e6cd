import DesignTokens.Command.Run
import DesignTokens.Proofs.Command.Preparation
import DesignTokens.Proofs.Files.Writing
import DesignTokens.Proofs.Format.Artifacts

/-!
# Converting again

A conversion that is run again from the tree that it left changes nothing. What the first run wrote
is neither a settings file nor a token file, so the second run prepares the same conversion and
writes what stands there already, as far as the first run came.

## Implementation notes

No path of the target may have the name of a settings file: the directory that is made could be
taken for settings. The input may lie in the target, as its extension is that of no artifact.

-/

namespace DesignTokens

open FileTree

/-- The name of an artifact, which is neither that of a settings file nor that of a token file. -/
structure IsOutputName (name : String) : Prop where
  named : IsName name
  own : name ≠ Settings.ownFile
  project : name ≠ Settings.projectFile
  extension : TokenFile.hasExtension ⟨.here, [name]⟩ = false

section Names

variable (format : Format) (model : Model)

theorem isOutputName_of_mem_filenames : ∀ name ∈ format.filenames model, IsOutputName name := by
  have all : ∀ name ∈ format.filenames model, IsName name ∧ name ≠ Settings.ownFile ∧
      name ≠ Settings.projectFile ∧ TokenFile.hasExtension ⟨.here, [name]⟩ = false := by
    unfold Format.filenames
    cases format <;> split <;> decide +kernel
  intro name mem
  obtain ⟨named, own, project, extension⟩ := all name mem
  exact ⟨named, own, project, extension⟩

theorem nodup_filenames : (format.filenames model).Nodup := by
  unfold Format.filenames
  cases format <;> split <;> decide +kernel

end Names

namespace Command

variable {old new tree : FileTree} {request : ConvertRequest} {conversion : Conversion}

section Write

variable {first : Outcome}

theorem run_write_snd (conversion : Conversion) (tree : FileTree) :
    (tree.run conversion.write).2 =
      (tree.run (writeArtifacts conversion.outputDir conversion.textFiles)).2 := by
  rw [Conversion.write, run_bind]
  cases tree.run (writeArtifacts conversion.outputDir conversion.textFiles) with
  | mk result changed =>
      cases result with
      | error fault =>
          simp only
          split <;> rfl
      | ok written => rfl

theorem run_write_of_ok {written : List Path}
    (h : tree.run (writeArtifacts conversion.outputDir conversion.textFiles) = (.ok written, new)) :
    tree.run conversion.write =
      (.success (writtenFiles conversion.format conversion.outputDir written) conversion.records,
        new) := by
  rw [Conversion.write, run_bind, h]
  rfl

/-- A fault of the writing is told by the exit code. -/
theorem exitCode_write_of_error {fault : FileFault}
    (h : (tree.run (writeArtifacts conversion.outputDir conversion.textFiles)).1 = .error fault) :
    (tree.run conversion.write).1.exitCode = 1 := by
  rw [Conversion.write, run_bind, h]
  simp only
  split <;> rfl

/-- Writing a conversion again changes nothing, and has the same outcome if it went well. -/
theorem run_write_again {result : Except FileFault (List Path)}
    (wrote : old.run (writeArtifacts conversion.outputDir conversion.textFiles) = (result, new))
    (stored : Stored conversion.outputDir conversion.textFiles old result new) :
    (old.run conversion.write).2 = new ∧ (new.run conversion.write).2 = new ∧
      ((old.run conversion.write).1.exitCode = 0 →
        new.run conversion.write = old.run conversion.write) := by
  obtain ⟨other, again, same⟩ := stored.again
  refine ⟨?_, ?_, fun exited => ?_⟩
  · rw [run_write_snd, wrote]
  · rw [run_write_snd, again]
  · cases result with
    | error fault =>
        rw [exitCode_write_of_error (congrArg Prod.fst wrote)] at exited
        cases exited
    | ok written =>
        rw [same written rfl] at again
        rw [run_write_of_ok wrote, run_write_of_ok again]

end Write

section Prepare

/-- The extension of a token file is that of its last name. -/
theorem hasExtension_eq {file : Path} {name : String} (last : file.parts.getLast? = some name) :
    TokenFile.hasExtension file = TokenFile.hasExtension ⟨.here, [name]⟩ := by
  simp only [TokenFile.hasExtension, Path.extension, Path.name, last]
  rfl

/-- A conversion is prepared in the same way from a tree that is extended by directories and files
that are named neither as settings files nor, the files, as token files. -/
theorem Prepared.of_extends {made written : List String}
    (prepared : Prepared old old.here request conversion) (rooted : old.Rooted)
    (found : request.settingsFile = none) (grown : Extends made written old new)
    (own : Settings.ownFile ∉ made ∧ Settings.ownFile ∉ written)
    (project : Settings.projectFile ∉ made ∧ Settings.projectFile ∉ written)
    (others : ∀ name ∈ written, TokenFile.hasExtension ⟨.here, [name]⟩ = false) :
    Prepared new new.here request conversion := by
  have here : new.here = old.here := by rw [FileTree.here, FileTree.here, grown.current]
  refine ⟨?settings, ?sections, prepared.format, prepared.files, prepared.target⟩
  case settings =>
    have unnamed : ∀ path ∈ request.settingsFile, new.lookup path = old.lookup path := by
      rw [found]
      exact nofun
    obtain ⟨result, before, after⟩ := Settings.readsAlike_resolve
      (grown.lookup_here rooted (by decide +kernel) own)
      (grown.lookup_here rooted (by decide +kernel) project) unnamed
    rw [here, after, ← prepared.settings, before]
  case sections =>
    obtain ⟨file, source, loaded⟩ := prepared.sections
    obtain ⟨extension, bytes, stands⟩ := TokenFile.exists_of_load_eq_ok loaded
    have kept : new.lookup file = .ok (.file bytes) := by
      apply grown.lookup_file rooted stands
      intro name last mem
      rw [hasExtension_eq last, others name mem] at extension
      cases extension
    obtain ⟨result, before, after⟩ := TokenFile.readsAlike_load fun _ => kept.trans stands.symm
    refine ⟨file, source, ?_⟩
    rw [after, ← loaded, before]

end Prepare

section Convert

variable {current : Path}

theorem run_convert_of_error {fault : ConvertFault}
    (h : (tree.run (prepare current request)).1 = .error fault) :
    tree.run (convert current request) = (fault.outcome, tree) := by
  rw [convert, run_bind, run_prepare, h]
  rfl

theorem run_convert_toScreen (screen : request.toScreen = true)
    (h : (tree.run (prepare current request)).1 = .ok conversion) :
    tree.run (convert current request) =
      (.success (printedFiles conversion.files) conversion.records, tree) := by
  rw [convert, run_bind, run_prepare, h]
  simp only [screen, if_true]
  rfl

theorem run_convert_of_ok (files : request.toScreen = false)
    (h : (tree.run (prepare current request)).1 = .ok conversion) :
    tree.run (convert current request) = tree.run conversion.write := by
  rw [convert, run_bind, run_prepare, h]
  simp only [files]
  rfl

theorem exitCode_outcome (fault : ConvertFault) : fault.outcome.exitCode = 1 := by
  cases fault with
  | settings error => cases error <;> rfl
  | withoutInput => rfl
  | unknownFormat error => rfl
  | rejected error => cases error <;> rfl
  | unwritable fault => rfl

end Convert

/-- A second run that changes nothing: it leaves the tree of the first one, and has its outcome if
the first one went well. -/
structure Settles (first second : Outcome × FileTree) : Prop where
  tree : second.2 = first.2
  outcome : first.1.exitCode = 0 → second.1 = first.1

theorem settles_refl (first : Outcome × FileTree) : Settles first first :=
  ⟨rfl, fun _ => rfl⟩

/-- A directory for output whose path has no name of a settings file. -/
def KeepsSettings (directory : Path) : Prop :=
  Settings.ownFile ∉ directory.parts ∧ Settings.projectFile ∉ directory.parts

theorem settles_convert (rooted : tree.Rooted) (found : request.settingsFile = none)
    (apart : ∀ conversion, (tree.run (prepare tree.here request)).1 = .ok conversion →
      KeepsSettings conversion.outputDir)
    {first second : Outcome × FileTree} (ran : tree.run (convert tree.here request) = first)
    (again : first.2.run (convert first.2.here request) = second) : Settles first second := by
  have unchanged : first.2 = tree → Settles first second := by
    intro same
    rw [same, ran] at again
    rw [again]
    exact settles_refl second
  cases ready : (tree.run (prepare tree.here request)).1 with
  | error fault =>
      apply unchanged
      rw [← ran, run_convert_of_error ready]
  | ok conversion =>
      cases files : request.toScreen with
      | true =>
          apply unchanged
          rw [← ran, run_convert_toScreen files ready]
      | false =>
          have prepared := prepared_of_run ready
          have names : conversion.textFiles.map TextFile.filename =
              conversion.format.filenames (Export.model conversion.sections) := by
            rw [← filenames_of_generate prepared.files, Conversion.textFiles, List.map_map]
            rfl
          have outputs := isOutputName_of_mem_filenames conversion.format
            (Export.model conversion.sections)
          have named : ∀ file ∈ conversion.textFiles, IsName file.filename := by
            intro file mem
            exact (outputs file.filename (names ▸ List.mem_map_of_mem mem)).named
          have distinct : (conversion.textFiles.map TextFile.filename).Nodup :=
            names ▸ nodup_filenames _ _
          cases wrote : tree.run (writeArtifacts conversion.outputDir conversion.textFiles) with
          | mk result new =>
              have stored := stored_of_run rooted named distinct wrote
              obtain ⟨left, still, same⟩ := run_write_again wrote stored
              rw [run_convert_of_ok files ready] at ran
              have grown : Extends conversion.outputDir.parts
                  (conversion.format.filenames (Export.model conversion.sections)) tree new :=
                names ▸ stored.grown
              have free := apart conversion ready
              have later : Prepared new new.here request conversion :=
                prepared.of_extends rooted found grown
                  ⟨free.1, fun mem => (outputs _ mem).own rfl⟩
                  ⟨free.2, fun mem => (outputs _ mem).project rfl⟩
                  fun name mem => (outputs name mem).extension
              rw [← ran, left, run_convert_of_ok files later.run_eq] at again
              rw [← ran, ← again]
              exact ⟨still.trans left.symm, fun exited => congrArg Prod.fst (same exited)⟩

section Run

variable {arguments : List String} {verbose : Bool} {current : Path}

/-- A conversion is run unless one of its paths is refused at once. -/
theorem run_convert_or (read : Invocation.read arguments = .ok ⟨verbose, .convert request⟩) :
    (∃ path, ∀ tree : FileTree, ∀ current, tree.run (run current arguments) =
      (.halted (.file ⟨.nulInName, path⟩) "", tree)) ∨
    ∀ tree : FileTree, ∀ current, tree.run (run current arguments) =
      tree.run (convert current request) := by
  cases refused : (Request.convert request).paths.find? Path.hasNul with
  | some path =>
      refine .inl ⟨path, fun tree current => ?_⟩
      simp only [run, read, refused]
      rfl
  | none =>
      refine .inr fun tree current => ?_
      simp only [run, read, refused]
      rfl

/-- Running a conversion again changes nothing, even if the first run broke off while it wrote,
and it has the same outcome if the first run went well. A run that prints the files, or that stops
before it writes, leaves the tree as it is. -/
theorem run_twice (rooted : tree.Rooted)
    (read : Invocation.read arguments = .ok ⟨verbose, .convert request⟩)
    (found : request.settingsFile = none)
    (apart : ∀ conversion, (tree.run (prepare tree.here request)).1 = .ok conversion →
      KeepsSettings conversion.outputDir)
    {first second : Outcome × FileTree} (ran : tree.run (run tree.here arguments) = first)
    (again : first.2.run (run first.2.here arguments) = second) :
    Settles first second ∧ (request.toScreen = true → first.2 = tree) ∧
      ∀ fault, (tree.run (prepare tree.here request)).1 = .error fault →
        first.1.exitCode = 1 ∧ first.2 = tree := by
  rcases run_convert_or read with ⟨path, halts⟩ | goes
  · rw [halts] at ran again
    rw [← ran] at again ⊢
    rw [← again]
    exact ⟨settles_refl _, fun _ => rfl, fun _ _ => ⟨rfl, rfl⟩⟩
  · rw [goes] at ran again
    refine ⟨settles_convert rooted found apart ran again, fun screen => ?_, fun fault stopped => ?_⟩
    · cases ready : (tree.run (prepare tree.here request)).1 with
      | error fault => rw [← ran, run_convert_of_error ready]
      | ok conversion => rw [← ran, run_convert_toScreen screen ready]
    · rw [← ran, run_convert_of_error stopped]
      exact ⟨exitCode_outcome fault, rfl⟩

/-- A directory with a token file. -/
def workTree : FileTree where
  items := [(["work"], .directory),
    (["work", "tokens.json"], .file "\x7b\"color\": \x7b\x7d\x7d".toUTF8)]
  current := ["work"]

/-- The request to write its style sheet two directories further down. -/
def sheetRequest : ConvertRequest :=
  ⟨some ⟨.here, ["tokens.json"]⟩, some "css-variables", some ⟨.here, ["out", "css"]⟩, false, none⟩

/-- The arguments of this request. -/
def sheetArguments : List String :=
  ["convert", "tokens.json", "-f", "css-variables", "-o", "out/css"]

theorem rooted_workTree : workTree.Rooted where
  directory := by
    intro place front
    cases place with
    | nil => rfl
    | cons name rest =>
        obtain ⟨name, rest⟩ : name = "work" ∧ rest = [] := by
          simpa [workTree] using front
        subst name rest
        rfl
  plain := by decide

/-- The directories and the style sheet are made once. -/
theorem run_twice_workTree :
    Invocation.read sheetArguments = .ok ⟨false, .convert sheetRequest⟩ ∧
    ∃ first second, workTree.run (run workTree.here sheetArguments) = first ∧
      first.2.run (run first.2.here sheetArguments) = second ∧ first.1.exitCode = 0 ∧
      first.2.items.map Prod.fst = [["work"], ["work", "tokens.json"], ["work", "out"],
        ["work", "out", "css"], ["work", "out", "css", "tokens.css"]] ∧
      second = first := by
  have read : Invocation.read sheetArguments = .ok ⟨false, .convert sheetRequest⟩ := by
    decide +kernel
  have apart : ∀ conversion,
      (workTree.run (prepare workTree.here sheetRequest)).1 = .ok conversion →
        KeepsSettings conversion.outputDir := by
    intro conversion ready
    rw [(prepared_of_run ready).target]
    change KeepsSettings ⟨.here, ["out", "css"]⟩
    exact ⟨by decide +kernel, by decide +kernel⟩
  have exited : (workTree.run (run workTree.here sheetArguments)).1.exitCode = 0 := by
    decide +kernel
  obtain ⟨settles, -, -⟩ := run_twice rooted_workTree read rfl apart rfl rfl
  exact ⟨read, _, _, rfl, rfl, exited, by decide +kernel,
    Prod.ext (settles.outcome exited) settles.tree⟩

end Run

end Command

end DesignTokens
