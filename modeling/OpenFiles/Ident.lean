import OpenFiles.Word

/-!
# Names of processes, descriptors and table rows

Each kind of name is a type of its own, so that a row of the system table is
never mistaken for a row of the group arena. The three names that key ordered
containers, `Pid`, `Descriptor` and `Handle`, carry a lawful comparison:
handles are ordered by process first and by descriptor second.
-/

namespace OpenFiles

/-- A process identifier, a 64-bit word. -/
structure Pid where
  number : UInt64
  deriving DecidableEq

/-- The identifier after this one; after the last comes 0. -/
def Pid.next (pid : Pid) : Pid := ⟨pid.number + 1⟩

instance : Ord Pid := ⟨compareOn Pid.number⟩

instance : Std.TransOrd Pid :=
  inferInstanceAs (Std.TransCmp (compareOn Pid.number))

instance : Std.LawfulEqOrd Pid where
  eq_of_compare {a b} h := by
    cases a; cases b
    exact congrArg Pid.mk (Std.LawfulEqOrd.eq_of_compare h)

/-- A number by which a process names an open file. Only numbers from 0 up to
the size of the process's table name anything. -/
structure Descriptor where
  number : Int
  deriving DecidableEq

instance : Ord Descriptor := ⟨compareOn Descriptor.number⟩

instance : Std.TransOrd Descriptor :=
  inferInstanceAs (Std.TransCmp (compareOn Descriptor.number))

instance : Std.LawfulEqOrd Descriptor where
  eq_of_compare {a b} h := by
    cases a; cases b
    exact congrArg Descriptor.mk (Std.LawfulEqOrd.eq_of_compare h)

namespace Descriptor

/-- The descriptor that a raw register names. The register is read as a signed
number; one that does not fit in 32 bits names the descriptor -1, which no
table accepts. -/
def ofRegister (word : UInt64) : Descriptor :=
  let value := signedWord word
  if -descriptorLimit ≤ value ∧ value < descriptorLimit then ⟨value⟩ else ⟨-1⟩

def toRegister (fd : Descriptor) : UInt64 :=
  UInt64.ofInt fd.number

end Descriptor

/-- A descriptor of a process: one reference to an open file. -/
structure Handle where
  pid : Pid
  descriptor : Descriptor
  deriving DecidableEq

instance : Ord Handle := ⟨compareLex (compareOn Handle.pid) (compareOn Handle.descriptor)⟩

instance : Std.TransOrd Handle :=
  inferInstanceAs (Std.TransCmp (compareLex (compareOn Handle.pid) (compareOn Handle.descriptor)))

instance : Std.LawfulEqOrd Handle where
  eq_of_compare {a b} h := by
    have both : (compare a.pid b.pid).then (compare a.descriptor b.descriptor) = .eq := h
    obtain ⟨samePid, sameDescriptor⟩ := Ordering.then_eq_eq.mp both
    cases a; cases b
    exact congr (congrArg Handle.mk (Std.LawfulEqOrd.eq_of_compare samePid))
      (Std.LawfulEqOrd.eq_of_compare sameDescriptor)

/-- The name of a row of the system open table. -/
structure RowId where
  index : Nat
  deriving DecidableEq

/-- The name of a slot of the group arena. -/
structure GroupId where
  index : Nat
  deriving DecidableEq

/-- An inode number: a nonzero 32-bit word. -/
structure Inode where
  value : UInt32
  nonzero : value ≠ 0
  deriving DecidableEq

/-- The inode number that is given out first, and again after the last. -/
def Inode.first : Inode := ⟨1, by decide⟩

/-- The inode number of a word; 0 is none. -/
def Inode.ofWord? (word : UInt32) : Option Inode :=
  if h : word ≠ 0 then some ⟨word, h⟩ else none

namespace RowId

def describe (row : RowId) : String := s!"EntryId({row.index})"

end RowId

namespace GroupId

def describe (group : GroupId) : String := s!"DupGroupId({group.index})"

end GroupId

namespace Handle

def describe (handle : Handle) : String :=
  s!"(Pid({handle.pid.number}), FileDescriptor({handle.descriptor.number}))"

end Handle

@[simp] theorem Inode.ofWord?_zero : Inode.ofWord? 0 = none := rfl

@[simp] theorem Inode.ofWord?_value (inode : Inode) :
    Inode.ofWord? inode.value = some inode := by
  simp [Inode.ofWord?, inode.nonzero]

end OpenFiles
