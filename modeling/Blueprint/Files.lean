import Blueprint.Files.Error

/-!
# Files

What the commands do with files, for any monad in which files can be handled.
-/

namespace Blueprint

structure Files (m : Type → Type) where
  /-- The content of a file. -/
  read : String → m (Except FileError ByteArray)
  /-- The number of bytes that a file is said to have. -/
  size : String → m (Except FileError Nat)
  /-- Whether a path leads to anything. -/
  present : String → m Bool
  /-- Puts a text in place of what a file holds, all at once. The directories on
  the way to it are created. -/
  replace : (path content : String) → m (Except FileError Unit)

end Blueprint
