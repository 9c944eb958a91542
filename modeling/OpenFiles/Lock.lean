import OpenFiles.Action

/-!
# A counter behind a lock

A lock protects a value. Whoever holds it may change the value and has to unlock
it by name; to give it up in any other way is a fault, which releases the lock
and keeps the change. Between two operations the lock is free, so its state is
the value alone.

Threads that contend for the lock run their critical sections one after the
other, in an order that a schedule gives.
-/

namespace OpenFiles

/-- A 64-bit counter behind a lock. -/
structure LockedCounter where
  value : UInt64
  deriving DecidableEq

namespace LockedCounter

open OpenFiles.Action

/-- Locks, adds around the end of the words, and unlocks. -/
def add (amount : UInt64) : Action LockedCounter UInt64 := do
  modify fun counter => ⟨counter.value + amount⟩
  return (← get).value

/-- Locks, adds, and gives the lock up without unlocking it. -/
def addAndAbandon (amount : UInt64) : Action LockedCounter Unit := do
  let _ ← add amount
  fail .abandonedLock

/-- A thread gets the lock, and adds 1 if it has additions left. `work` says how many
each thread has left, and what the turn leaves of that is the answer. -/
def turn (thread : Nat) (work : List Nat) : Action LockedCounter (List Nat) := do
  match work[thread]? with
  | some (left + 1) =>
    let _ ← add 1
    return work.set thread left
  | _ => return work

/-- The threads get the lock in the order of a schedule. -/
def follow : List Nat → List Nat → Action LockedCounter (List Nat)
  | [], work => return work
  | thread :: schedule, work => do
    let left ← turn thread work
    follow schedule left

/-- The schedule in which each thread keeps the lock until it has finished. -/
def oneByOne (threads rounds : Nat) : List Nat :=
  (List.range threads).flatMap fun thread => List.replicate rounds thread

/-- Lets `threads` threads add 1 to the counter `rounds` times each. -/
def contend (threads rounds : Nat) : Action LockedCounter UInt64 := do
  let _ ← follow (oneByOne threads rounds) (List.replicate threads rounds)
  return (← get).value

end LockedCounter

end OpenFiles
