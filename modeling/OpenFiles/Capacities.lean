import OpenFiles.Error
import OpenFiles.Word

/-!
# Capacities, and what memory grants

Both kinds of table keep the size they were made with. `Capacities` names the
two sizes; they are checked before anything is built from them.

Memory is another matter. `Allotment` says which requests for it are granted, and a
service works under whatever allotment it is given.
-/

namespace OpenFiles

/-- The number of rows of the system table, and of slots of every process. -/
structure Capacities where
  systemRows : Nat := 64
  processSlots : Nat := 32
  deriving DecidableEq

/-- What memory grants: requests for fewer than `bytes` bytes, and a slot for one more
group while there are fewer than `groups` of them, or always if that is left open. -/
structure Allotment where
  bytes : Nat := allocationLimit
  groups : Option Nat := none
  deriving DecidableEq

/-- Whether there is memory for one more group beside so many. -/
def Allotment.admitsGroup (allotment : Allotment) (groups : Nat) : Bool :=
  allotment.groups.all fun most => groups < most

namespace Capacities

/-- Checks the sizes. The system table needs a row, a process needs a slot above
the standard streams, and descriptors are signed 32-bit numbers. -/
def check (capacities : Capacities) : Except Error Unit :=
  if capacities.systemRows = 0 ∨ capacities.processSlots ≤ 3 ∨
      descriptorLimit ≤ capacities.processSlots then
    .error .invalidArgument
  else .ok ()

def describe (capacities : Capacities) : String :=
  let rows := capacities.systemRows
  let slots := capacities.processSlots
  s!"FileTableConfig \x7b system_open_max: {rows}, open_max: {slots} \x7d"

theorem check_eq_ok_iff (capacities : Capacities) :
    capacities.check = .ok () ↔
      0 < capacities.systemRows ∧ 3 < capacities.processSlots ∧
        capacities.processSlots < descriptorLimit := by
  unfold check
  split
  · simp only [reduceCtorEq, false_iff]
    omega
  · simp only [true_iff]
    omega

end Capacities

end OpenFiles
