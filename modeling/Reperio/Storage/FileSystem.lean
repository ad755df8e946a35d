import Mathlib.Logic.Function.Basic
import Reperio.Python.PurePath

/-!
# File systems

What a program sees of a file system through paths: what stands at a path, without
following a link there, and what a path resolves to. Looking at a path may fail.
-/

namespace Reperio.Storage

open Python

/-- What stands at a path. -/
inductive Node where
  | symlink
  | directory (mode : ℕ)
  | file (mode links : ℕ) (content : List UInt8)
  | blockDevice
  | special
  deriving DecidableEq

/-- Looking fails with `OSError`, unless it is only that nothing is there. Resolving fails with an
error that a caller expects (`OSError`, `RuntimeError`), or as the text has no encoding. -/
structure FileSystem where
  node : PurePath → Except Unit (Option Node)
  resolve : PurePath → Except Bool PurePath

namespace FileSystem

/-- Something else stands at one path. -/
def put (fileSystem : FileSystem) (path : PurePath) (node : Option Node) : FileSystem :=
  { fileSystem with node := Function.update fileSystem.node path (.ok node) }

variable {fileSystem : FileSystem} {path other : PurePath} {node : Option Node}

@[simp]
theorem node_put_self : (fileSystem.put path node).node path = .ok node := Function.update_self ..

theorem node_put_of_ne (different : other ≠ path) :
    (fileSystem.put path node).node other = fileSystem.node other :=
  Function.update_of_ne different ..

end FileSystem

end Reperio.Storage
