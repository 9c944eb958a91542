import OpenFiles.Error
import OpenFiles.Ident

/-!
# Faults

A fault is an assertion of the kernel or of its surroundings that does not
hold: the caller broke the contract of an operation, or a value left its range.
A fault is not an answer to a user program. The operation stops where it stands
and leaves behind what it had done so far.
-/

namespace OpenFiles

/-- The assertions that can fail. -/
inductive Fault where
  /-- A handle of a free row was dropped. -/
  | doubleRelease (row : RowId)
  /-- A handle was added to a free row. -/
  | retainOfFree (row : RowId)
  /-- A dissolved group was used. -/
  | deadGroup (group : GroupId)
  /-- A handle left a group that it does not belong to. -/
  | notMember (handle : Handle) (group : GroupId)
  /-- A sum left the range of 64-bit words. -/
  | wordOverflow
  /-- A request for user memory found no room. -/
  | memoryExhausted
  /-- A refusal came where none was provided for. -/
  | unexpectedRefusal (reason : Error)
  /-- A number was taken for an error number and is none. -/
  | unknownErrorNumber (number : UInt64)
  /-- A lock was given up without being unlocked. -/
  | abandonedLock
  deriving DecidableEq

namespace Fault

/-- The first line of the report of a fault. -/
def message : Fault → String
  | doubleRelease row => "double release of entry " ++ row.describe
  | retainOfFree row => "retain of a free entry " ++ row.describe
  | deadGroup group => group.describe ++ " is not a live group"
  | notMember handle group => handle.describe ++ " is not a member of " ++ group.describe
  | wordOverflow => "attempt to add with overflow"
  | memoryExhausted => "user memory exhausted"
  | unexpectedRefusal reason =>
    "called `Result::unwrap()` on an `Err` value: " ++ reason.name
  | unknownErrorNumber number => s!"{number} is not an error number."
  | abandonedLock => "`.unlock()` must be explicitly called before dropping SpinLockGuard."

end Fault

end OpenFiles
