import OpenFiles.Service.Basic

/-!
# Requests that concern paths alone

Asking for the working directory and removing a path go straight to the storage
and leave the tables alone. User programs are not told why a removal was
refused; the reason goes to the journal.
-/

namespace OpenFiles

namespace Service

variable {σ κ : Type} [Storage σ]

open OpenFiles.Action

def workingDirectory : Action (Service σ κ) String := do
  let s ← get
  orRefuse (Storage.workingDirectory s.storage)

def remove (path : String) : Action (Service σ κ) Unit := do
  match ← onStorage (Storage.removePath path) with
  | .ok () => return ()
  | .error reason =>
    note (.removeRefused path reason)
    refuse .operationNotPermitted

end Service

end OpenFiles
