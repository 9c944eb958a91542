import OpenFiles.Error
import OpenFiles.Word

/-!
# The contract of an address space

The kernel reaches the memory of a user program by three requests. It asks
whether a range of addresses may be used, it fetches bytes, and it stores bytes.
Each request may change the state of the address space; an address space that
remembers the requests it got is one too.

A range runs from its first address up to, but not including, its stop.
-/

namespace OpenFiles

/-- What the kernel wants to do with a range of user addresses. -/
inductive Direction where
  | fetch
  | store
  deriving DecidableEq

/-- What the kernel asks of the memory of a user program. -/
class AddressSpace (μ : Type) where
  /-- Whether the addresses from `start` up to `stop` may be used. -/
  permits : (start stop : Nat) → Direction → μ → Bool × μ
  /-- Fetches `length` bytes from `start` on. -/
  fetch : (start length : Nat) → μ → Except Error (Vector UInt8 length) × μ
  /-- Stores bytes at `start` and on. -/
  store : (start : Nat) → Bytes → μ → Except Error Unit × μ

end OpenFiles
