import OpenFiles.Object

/-!
# A storage with outages

`Unreliable σ` is a storage of type `σ` that can be told to fail. An outage makes
every request of one kind fail before the storage sees it. One more setting caps
the number of bytes that a single transfer moves. Sizes and releases always go
through.

Without outages and cap, requests are answered as the bare storage answers them.
-/

namespace OpenFiles

/-- The kinds of request that fail, each with its error, and the cap on
transfers. -/
structure Outages where
  openPath : Option Error := none
  removePath : Option Error := none
  workingDirectory : Option Error := none
  read : Option Error := none
  write : Option Error := none
  transferMax : Option Nat := none
  deriving DecidableEq

namespace Outages

/-- No request fails and no transfer is cut short. -/
def off : Outages := {}

/-- The number of bytes of a transfer of `length` bytes that go through. -/
def allowance (outages : Outages) (length : Nat) : Nat :=
  match outages.transferMax with
  | some most => min most length
  | none => length

@[simp] theorem allowance_off (length : Nat) : off.allowance length = length := rfl

end Outages

structure Unreliable (σ : Type) where
  store : σ
  outages : Outages

namespace Unreliable

variable {σ : Type}

/-- Passes a request on, unless there is an outage. -/
def passOn {α : Type} (outage : Option Error) (request : σ → Except Error α × σ)
    (storage : Unreliable σ) : Except Error α × Unreliable σ :=
  match outage with
  | some reason => (.error reason, storage)
  | none =>
    let (answer, store) := request storage.store
    (answer, { storage with store := store })

variable [Storage σ]

def workingDirectory (storage : Unreliable σ) : Except Error String :=
  match storage.outages.workingDirectory with
  | some reason => .error reason
  | none => Storage.workingDirectory storage.store

def readAt (object : Object) (position length : Nat) (storage : Unreliable σ) :
    Except Error Bytes :=
  match storage.outages.read with
  | some reason => .error reason
  | none => object.read position (storage.outages.allowance length) storage.store

def writeAt (object : Object) (position : Nat) (data : Bytes) (storage : Unreliable σ) :
    Except Error Nat × Unreliable σ :=
  storage.passOn storage.outages.write
    (object.write position (data.take (storage.outages.allowance data.length)))

instance : Storage (Unreliable σ) where
  openPath text flags permission storage :=
    storage.passOn storage.outages.openPath (Storage.openPath text flags permission)
  removePath text storage :=
    storage.passOn storage.outages.removePath (Storage.removePath text)
  workingDirectory := workingDirectory
  sizeOf object storage := Storage.sizeOf object storage.store
  readAt := readAt
  writeAt := writeAt
  release object storage := { storage with store := Storage.release object storage.store }

end Unreliable

end OpenFiles
