import Epics.FileTree.Operations

/-!
# File stores

A file store is what a run needs of the files around it.  A run is written once,
for any store; a file tree that is passed along is one, the disk another.
-/

namespace Epics

/-- The three operations that a run performs on files. -/
structure FileStore (m : Type → Type) where
  readFile : Text → m (Except Fault Bytes)
  writeFile : Text → Bytes → m (Except Fault Unit)
  makeDirectories : Text → m (Except Fault Unit)

/-- The store whose files are those of a file tree. -/
def FileTree.store : FileStore (StateM FileTree) where
  readFile path := fun tree => (tree.readFile path, tree)
  writeFile path content := fun tree => tree.writeFile path content
  makeDirectories path := fun tree => tree.makeDirectories path

end Epics
