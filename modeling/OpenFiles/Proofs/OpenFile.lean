import OpenFiles.Object
import OpenFiles.OpenFlags

/-!
# Open files

What one open leaves behind, seen apart from the tables that keep it: an object, a
cursor and rights. All descriptors that come from that open share it.
-/

namespace OpenFiles

/-- An object that was opened, a cursor into it, and rights. -/
structure OpenFile where
  object : Object
  cursor : Nat
  rights : Rights
  deriving DecidableEq

namespace OpenFile

variable {σ : Type} [Storage σ]

/-- Where a write through an open file starts. -/
def start (file : OpenFile) (store : σ) : Nat :=
  if file.rights.append then Storage.sizeOf file.object store else file.cursor

end OpenFile

end OpenFiles
