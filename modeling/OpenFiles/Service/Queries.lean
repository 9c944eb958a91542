import OpenFiles.Service.Basic

/-!
# Looking at the tables

None of these changes anything.
-/

namespace OpenFiles

namespace Service

variable {σ κ : Type}

open OpenFiles.Action

/-- The number of handles on an object, over all processes. -/
def handlesOn (s : Service σ κ) (object : Object) : Nat :=
  (s.tables.system.rowOf? object).elim 0 s.tables.system.handles

/-- The number of objects that are open. -/
def openObjects (s : Service σ κ) : Nat := s.tables.system.used

/-- The descriptors that share the cursor of `fd`, itself included. A standard
stream shares with none. -/
def members (pid : Pid) (fd : Descriptor) : Action (Service σ κ) (List Handle) := do
  match ← slot pid fd with
  | .stream _ => return [⟨pid, fd⟩]
  | .shared id =>
    let group ← group id
    return group.members.elements

end Service

end OpenFiles
