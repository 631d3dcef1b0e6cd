import DesignTokens.Files.Memory

/-!
# Runs in memory

A computation on files is run from a tree, and leaves a result and a tree. What only reads leaves
the tree as it is, and gives the same result in another tree if the same stands there at the paths
that it reads.

-/

namespace DesignTokens

namespace FileTree

variable {α β : Type} {tree changed old new : FileTree} {path : Path} {bytes : ByteArray}
  {fault : FileFault}

/-- The result of a computation from a tree, and the tree that it leaves. -/
def run (tree : FileTree) (action : StateM FileTree α) : α × FileTree :=
  action tree

theorem run_pure (result : α) (tree : FileTree) : tree.run (pure result) = (result, tree) :=
  rfl

theorem run_bind (first : StateM FileTree α) (next : α → StateM FileTree β) (tree : FileTree) :
    tree.run (first >>= next) = (tree.run first).2.run (next (tree.run first).1) :=
  rfl

theorem run_readBytes (path : Path) (tree : FileTree) :
    tree.run (FileStore.readBytes path) = (tree.readBytes path, tree) :=
  rfl

theorem run_isPresent (path : Path) (tree : FileTree) :
    tree.run (FileStore.isPresent path) = (tree.isPresent path, tree) :=
  rfl

theorem run_makeDirectory_of_ok (h : tree.withDirectory path = .ok changed) :
    tree.run (FileStore.makeDirectory path) = (.ok (), changed) := by
  change attempt (fun tree => tree.withDirectory path) tree = _
  rw [attempt, h]

theorem run_makeDirectory_of_error (h : tree.withDirectory path = .error fault) :
    tree.run (FileStore.makeDirectory path) = (.error fault, tree) := by
  change attempt (fun tree => tree.withDirectory path) tree = _
  rw [attempt, h]

theorem run_writeBytes_of_ok (h : tree.withFile path bytes = .ok changed) :
    tree.run (FileStore.writeBytes path bytes) = (.ok (), changed) := by
  change attempt (fun tree => tree.withFile path bytes) tree = _
  rw [attempt, h]

theorem run_writeBytes_of_error (h : tree.withFile path bytes = .error fault) :
    tree.run (FileStore.writeBytes path bytes) = (.error fault, tree) := by
  change attempt (fun tree => tree.withFile path bytes) tree = _
  rw [attempt, h]

section ReadsAlike

/-- A computation that gives the same result in two trees and changes neither. -/
def ReadsAlike (old new : FileTree) (action : StateM FileTree α) : Prop :=
  ∃ result, old.run action = (result, old) ∧ new.run action = (result, new)

theorem readsAlike_pure (result : α) : ReadsAlike old new (pure result) :=
  ⟨result, rfl, rfl⟩

theorem ReadsAlike.bind {first : StateM FileTree α} {next : α → StateM FileTree β}
    (alike : ReadsAlike old new first)
    (goes : ∀ result, (old.run first).1 = result → ReadsAlike old new (next result)) :
    ReadsAlike old new (first >>= next) := by
  obtain ⟨result, before, after⟩ := alike
  obtain ⟨last, behind, beyond⟩ := goes result (congrArg Prod.fst before)
  refine ⟨last, ?_, ?_⟩
  · rw [run_bind, before, behind]
  · rw [run_bind, after, beyond]

theorem readsAlike_isPresent (same : new.lookup path = old.lookup path) :
    ReadsAlike old new (FileStore.isPresent path) := by
  refine ⟨old.isPresent path, run_isPresent path old, ?_⟩
  rw [run_isPresent, isPresent, isPresent, same]

theorem readsAlike_readBytes (same : new.lookup path = old.lookup path) :
    ReadsAlike old new (FileStore.readBytes path) := by
  refine ⟨old.readBytes path, run_readBytes path old, ?_⟩
  rw [run_readBytes, readBytes, readBytes, same]

/-- What reads alike in a tree and itself leaves it as it is. -/
theorem ReadsAlike.run_eq {action : StateM FileTree α} (alike : ReadsAlike tree tree action) :
    tree.run action = ((tree.run action).1, tree) := by
  obtain ⟨result, run, -⟩ := alike
  rw [run]

end ReadsAlike

end FileTree

end DesignTokens
