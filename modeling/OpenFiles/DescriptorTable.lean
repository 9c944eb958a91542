import OpenFiles.Ident
import OpenFiles.OpenFlags

/-!
# The descriptor table of a process

A process names its open files by the slots of a table of fixed size. A slot is
empty, or refers to one of the standard streams, or to a share group. The
standard streams are in descriptors 0, 1 and 2 when the table is made; they can
be closed like others, but the allocation of new descriptors starts above them
for good.
-/

namespace OpenFiles

/-- The standard streams, which lead to the console. -/
inductive StandardStream where
  | input
  | output
  | errors
  deriving DecidableEq

def StandardStream.rights : StandardStream → Rights
  | .input => .reading
  | .output => .writing
  | .errors => .writing

/-- What a populated slot refers to. -/
inductive Slot where
  | stream (stream : StandardStream)
  | shared (group : GroupId)
  deriving DecidableEq

/-- The slots of a process; slot `n` belongs to descriptor `n`. -/
structure DescriptorTable where
  slots : List (Option Slot)
  deriving DecidableEq

namespace DescriptorTable

/-- The storage that one slot takes. -/
def slotBytes : Nat := 16

/-- The number of descriptors that are never handed out by allocation. -/
def reserved : Nat := 3

/-- The slots of the standard streams, in order. -/
def standardSlots : List (Option Slot) :=
  [some (.stream .input), some (.stream .output), some (.stream .errors)]

/-- A table of so many slots, with the standard streams as far as they fit. The slots
must take less than `granted` bytes. -/
def ofSize (size : Nat) (granted : Nat := allocationLimit) : Except Error DescriptorTable :=
  if granted ≤ slotBytes * size then .error .noMemory
  else .ok ⟨standardSlots.take size ++ List.replicate (size - reserved) none⟩

def size (table : DescriptorTable) : Nat := table.slots.length

/-- The slot number of a descriptor, if the table has it. -/
def index? (table : DescriptorTable) (fd : Descriptor) : Option Nat :=
  if 0 ≤ fd.number ∧ fd.number < table.size then some fd.number.toNat else none

/-- What a descriptor refers to, if it is populated. -/
def slot? (table : DescriptorTable) (fd : Descriptor) : Option Slot :=
  (table.index? fd).bind fun index => (table.slots[index]?).join

def requireInRange (table : DescriptorTable) (fd : Descriptor) : Except Error Unit :=
  match table.index? fd with
  | some _ => .ok ()
  | none => .error .badDescriptor

def slot (table : DescriptorTable) (fd : Descriptor) : Except Error Slot :=
  match table.slot? fd with
  | some slot => .ok slot
  | none => .error .badDescriptor

def isPopulated (table : DescriptorTable) (fd : Descriptor) : Bool := (table.slot? fd).isSome

/-- The lowest empty slot that allocation may use. -/
def freeDescriptor (table : DescriptorTable) : Except Error Descriptor :=
  match (table.slots.drop reserved).findIdx? Option.isNone with
  | some index => .ok ⟨reserved + index⟩
  | none => .error .tooManyOpen

def fill (table : DescriptorTable) (fd : Descriptor) (slot : Slot) :
    Except Error DescriptorTable :=
  match table.index? fd with
  | none => .error .badDescriptor
  | some index =>
    match table.slot? fd with
    | some _ => .error .busy
    | none => .ok ⟨table.slots.set index (some slot)⟩

/-- Empties a slot and answers what it referred to. -/
def clear (table : DescriptorTable) (fd : Descriptor) : Except Error (Slot × DescriptorTable) :=
  match table.slot? fd with
  | some slot => .ok (slot, ⟨table.slots.set fd.number.toNat none⟩)
  | none => .error .badDescriptor

/-- The populated slots, by rising descriptor. -/
def populated (table : DescriptorTable) : List (Descriptor × Slot) :=
  table.slots.zipIdx.filterMap fun (slot, index) => slot.map fun slot => (⟨index⟩, slot)

/-- The populated slots that refer to a group, by rising descriptor. -/
def shared (table : DescriptorTable) : List (Descriptor × GroupId) :=
  table.populated.filterMap fun (fd, slot) =>
    match slot with
    | .stream _ => none
    | .shared group => some (fd, group)

variable {table : DescriptorTable} {fd : Descriptor}

theorem index?_eq_some_iff {index : Nat} :
    table.index? fd = some index ↔ fd.number = index ∧ index < table.size := by
  unfold index?
  split
  · rw [Option.some.injEq]
    omega
  · simp only [reduceCtorEq, false_iff]
    omega

theorem slot_eq_ok_iff {slot : Slot} : table.slot fd = .ok slot ↔ table.slot? fd = some slot := by
  unfold DescriptorTable.slot
  cases table.slot? fd <;> simp

theorem isPopulated_iff : table.isPopulated fd = true ↔ ∃ slot, table.slot? fd = some slot :=
  Option.isSome_iff_exists

end DescriptorTable

end OpenFiles
