import DesignTokens.Command.Convert
import DesignTokens.Proofs.Files.Runs

/-!
# Preparing a conversion

A conversion is prepared by reading alone, so the tree stays as it is. It is ready exactly if the
settings, the format and the token file give what it holds, and then it is prepared in the same way
from every tree where the settings files and the token file are found as they are.

-/

namespace DesignTokens

open FileTree

variable {old new tree : FileTree}

namespace Settings

variable {directory : Path}

/-- What is found in a directory is one of the two settings files. -/
theorem path_of_find {path : Path} (h : (tree.run (find directory)).1 = .ok (some path)) :
    path = directory.child ownFile ∨ path = directory.child projectFile := by
  rw [find, run_bind, run_isPresent] at h
  simp only at h
  split at h
  case isTrue => exact .inl (Option.some.inj (Except.ok.inj h)).symm
  case isFalse =>
      rw [run_bind, run_isPresent] at h
      simp only at h
      split at h
      case isFalse => cases h
      case isTrue =>
          rw [run_bind, run_readBytes] at h
          simp only at h
          split at h
          case h_1 => cases h
          case h_2 bytes _ =>
              split at h
              case h_1 => cases h
              case h_2 text _ =>
                  rw [run_pure] at h
                  simp only at h
                  cases mentioned : projectMentions text with
                  | error cause =>
                      rw [mentioned] at h
                      cases h
                  | ok found =>
                      rw [mentioned] at h
                      cases found with
                      | false => cases h
                      | true => exact .inr (Option.some.inj (Except.ok.inj h)).symm

theorem readsAlike_load {path : Path} (same : new.lookup path = old.lookup path) :
    ReadsAlike old new (load path) := by
  refine (readsAlike_readBytes same).bind fun result _ => ?_
  cases result with
  | error fault =>
      change ReadsAlike old new (if fault.isReported then _ else _)
      split <;> exact readsAlike_pure _
  | ok bytes => exact readsAlike_pure _

variable (own : new.lookup (directory.child ownFile) = old.lookup (directory.child ownFile))
  (project : new.lookup (directory.child projectFile) = old.lookup (directory.child projectFile))

include own project

theorem readsAlike_find : ReadsAlike old new (find directory) := by
  refine (readsAlike_isPresent own).bind fun present _ => ?_
  cases present with
  | true => exact readsAlike_pure _
  | false =>
      refine (readsAlike_isPresent project).bind fun present _ => ?_
      cases present with
      | false => exact readsAlike_pure _
      | true =>
          refine (readsAlike_readBytes project).bind fun result _ => ?_
          cases result with
          | error fault => exact readsAlike_pure _
          | ok bytes =>
              dsimp only
              cases textOf bytes with
              | error fault => exact readsAlike_pure _
              | ok text => exact readsAlike_pure _

/-- Settings are resolved alike where the two settings files and a named one are found alike. -/
theorem readsAlike_resolve {file : Option Path}
    (named : ∀ path ∈ file, new.lookup path = old.lookup path) :
    ReadsAlike old new (resolve file directory) := by
  cases file with
  | some path =>
      refine (readsAlike_isPresent (named path rfl)).bind fun present _ => ?_
      cases present with
      | true => exact readsAlike_load (named path rfl)
      | false => exact readsAlike_pure _
  | none =>
      refine (readsAlike_find own project).bind fun result found => ?_
      cases result with
      | error cause => exact readsAlike_pure _
      | ok path? =>
          cases path? with
          | none => exact readsAlike_pure _
          | some path =>
              apply readsAlike_load
              rcases path_of_find found with rfl | rfl
              · exact own
              · exact project

end Settings

namespace TokenFile

variable {file : Path}

theorem readsAlike_load (same : hasExtension file = true → new.lookup file = old.lookup file) :
    ReadsAlike old new (load file) := by
  unfold load
  split
  case isFalse => exact readsAlike_pure _
  case isTrue extension =>
      refine (readsAlike_readBytes (same extension)).bind fun result _ => ?_
      cases result with
      | ok bytes => exact readsAlike_pure _
      | error fault =>
          change ReadsAlike old new (if fault.isReported then _ else _)
          split <;> exact readsAlike_pure _

/-- Sections come from a token file that is there. -/
theorem exists_of_load_eq_ok {sections : Entries Json}
    (h : (tree.run (load file)).1 = .ok sections) :
    hasExtension file = true ∧ ∃ bytes, tree.lookup file = .ok (.file bytes) := by
  unfold load at h
  split at h
  case isFalse => cases h
  case isTrue extension =>
      rw [run_bind, run_readBytes, readBytes] at h
      cases found : tree.lookup file with
      | error problem =>
          rw [found] at h
          simp only at h
          split at h <;> cases h
      | ok item =>
          cases item with
          | directory =>
              rw [found] at h
              simp only at h
              split at h <;> cases h
          | file bytes => exact ⟨extension, bytes, rfl⟩

end TokenFile

namespace Command

variable {current : Path} {request : ConvertRequest} {conversion : Conversion}

/-- A conversion that is ready: its settings, its sections, its format and its files are what
reading gives, and it writes to the directory that is asked for or else to that of the settings. -/
structure Prepared (tree : FileTree) (current : Path) (request : ConvertRequest)
    (conversion : Conversion) : Prop where
  settings : (tree.run (Settings.resolve request.settingsFile current)).1 = .ok conversion.settings
  sections : ∃ file, request.input.or conversion.settings.input = some file ∧
    (tree.run (TokenFile.load file)).1 = .ok conversion.sections
  format : request.formatIn conversion.settings = .ok conversion.format
  files : generate conversion.format (Export.model conversion.sections) = .ok conversion.files
  target : conversion.outputDir = request.outputDir.getD conversion.settings.outputDir

theorem run_resolve (file : Option Path) (directory : Path) (tree : FileTree) :
    tree.run (Settings.resolve file directory) =
      ((tree.run (Settings.resolve file directory)).1, tree) :=
  (Settings.readsAlike_resolve rfl rfl fun _ _ => rfl).run_eq

theorem run_load (file : Path) (tree : FileTree) :
    tree.run (TokenFile.load file) = ((tree.run (TokenFile.load file)).1, tree) :=
  (TokenFile.readsAlike_load fun _ => rfl).run_eq

/-- Preparing leaves the tree as it is. -/
theorem run_prepare (current : Path) (request : ConvertRequest) (tree : FileTree) :
    tree.run (prepare current request) = ((tree.run (prepare current request)).1, tree) := by
  apply ReadsAlike.run_eq
  refine (Settings.readsAlike_resolve rfl rfl fun _ _ => rfl).bind fun result _ => ?_
  cases result with
  | error fault => exact readsAlike_pure _
  | ok settings =>
      simp only
      split
      · exact readsAlike_pure _
      · split
        · exact readsAlike_pure _
        · refine (TokenFile.readsAlike_load fun _ => rfl).bind fun result _ => ?_
          cases result with
          | error fault => exact readsAlike_pure _
          | ok sections =>
              simp only
              split <;> exact readsAlike_pure _

theorem Prepared.run_eq (prepared : Prepared tree current request conversion) :
    (tree.run (prepare current request)).1 = .ok conversion := by
  obtain ⟨settings, ⟨file, source, sections⟩, format, files, target⟩ := prepared
  rw [prepare, run_bind, run_resolve, settings]
  simp only [source, format]
  rw [run_bind, run_load, sections]
  simp only [files, ← target]
  rfl

/-- A conversion is only ready if every step of its preparation went well. -/
theorem prepared_of_run (h : (tree.run (prepare current request)).1 = .ok conversion) :
    Prepared tree current request conversion := by
  rw [prepare, run_bind, run_resolve] at h
  cases resolved : (tree.run (Settings.resolve request.settingsFile current)).1 with
  | error fault =>
      rw [resolved] at h
      cases h
  | ok settings =>
      rw [resolved] at h
      simp only at h
      split at h
      case h_1 => cases h
      case h_2 file source =>
          split at h
          case h_1 => cases h
          case h_2 format named =>
              rw [run_bind, run_load] at h
              cases loaded : (tree.run (TokenFile.load file)).1 with
              | error fault =>
                  rw [loaded] at h
                  cases h
              | ok sections =>
                  rw [loaded] at h
                  simp only at h
                  split at h
                  case h_1 => cases h
                  case h_2 files made =>
                      rw [← Except.ok.inj h]
                      exact ⟨resolved, ⟨file, source, loaded⟩, named, made, rfl⟩

end Command

end DesignTokens
