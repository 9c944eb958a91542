import OpenFiles.UserSpace.AddressSpace

/-!
# An address space behind a guard

A guard names ranges that may not be fetched from, ranges that may not be stored
to, and failures of the copies themselves. It stands between the kernel and an
address space; whoever holds the address space itself passes it by.
-/

namespace OpenFiles

/-- The ranges and failures that a guard imposes. A range is given by its first
address and its stop. -/
structure Guard where
  noFetch : List (Nat × Nat) := []
  noStore : List (Nat × Nat) := []
  failFetch : Option Error := none
  failStore : Option Error := none
  deriving DecidableEq

namespace Guard

/-- Nothing is imposed. -/
def inactive : Guard := {}

def closed (guard : Guard) : Direction → List (Nat × Nat)
  | .fetch => guard.noFetch
  | .store => guard.noStore

/-- Whether a range keeps clear of all that is closed for a direction. -/
def admits (guard : Guard) (start stop : Nat) (direction : Direction) : Bool :=
  (guard.closed direction).all fun (low, high) => !(start < high && low < stop)

@[simp] theorem admits_inactive (start stop : Nat) (direction : Direction) :
    inactive.admits start stop direction = true := by
  cases direction <;> rfl

end Guard

structure Guarded (μ : Type) where
  space : μ
  guard : Guard

namespace Guarded

variable {μ : Type}

def onSpace {α : Type} (request : μ → α × μ) (guarded : Guarded μ) : α × Guarded μ :=
  let (answer, space) := request guarded.space
  (answer, { guarded with space := space })

variable [AddressSpace μ]

/-- Whether a range may be used: neither the guard nor the address space objects. -/
def permits (start stop : Nat) (direction : Direction) (guarded : Guarded μ) :
    Bool × Guarded μ :=
  if guarded.guard.admits start stop direction then
    guarded.onSpace (AddressSpace.permits start stop direction)
  else (false, guarded)

def fetch (start length : Nat) (guarded : Guarded μ) :
    Except Error (Vector UInt8 length) × Guarded μ :=
  match guarded.guard.failFetch with
  | some reason => (.error reason, guarded)
  | none => guarded.onSpace (AddressSpace.fetch start length)

def store (start : Nat) (data : Bytes) (guarded : Guarded μ) : Except Error Unit × Guarded μ :=
  match guarded.guard.failStore with
  | some reason => (.error reason, guarded)
  | none => guarded.onSpace (AddressSpace.store start data)

instance : AddressSpace (Guarded μ) where
  permits := permits
  fetch := fetch
  store := store

end Guarded

end OpenFiles
