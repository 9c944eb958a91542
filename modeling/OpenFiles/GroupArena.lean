import OpenFiles.Capacities
import OpenFiles.Fault
import OpenFiles.OpenFlags
import OpenFiles.OrderedMap.Lemmas

/-!
# Share groups and their arena

A share group is what one successful open leaves behind: the row of the system
table, a cursor, and the rights. All descriptors duplicated or inherited from
that open are members of the group, in whatever process, and so share the
cursor. A group lives as long as it has members.

The arena keeps the groups in slots, and beside them the set of free slots. A
new group goes to the lowest free slot; only if there is none does the arena
grow.
-/

namespace OpenFiles

/-- The row, cursor and rights that the descriptors of one open share. -/
structure ShareGroup where
  row : RowId
  cursor : Nat
  rights : Rights
  members : OrderedSet Handle
  deriving DecidableEq

/-- The live groups, and the slots that are free for new ones. -/
structure GroupArena where
  slots : List (Option ShareGroup)
  free : OrderedSet Nat
  deriving DecidableEq

namespace GroupArena

def empty : GroupArena := ⟨[], ∅⟩

/-- The group in a slot, if it is live. -/
def group? (arena : GroupArena) (id : GroupId) : Option ShareGroup :=
  (arena.slots[id.index]?).join

def group (arena : GroupArena) (id : GroupId) : Except Fault ShareGroup :=
  match arena.group? id with
  | some group => .ok group
  | none => .error (.deadGroup id)

def live (arena : GroupArena) : Nat := arena.slots.countP Option.isSome

def setSlot (arena : GroupArena) (id : GroupId) (slot : Option ShareGroup) : GroupArena :=
  { arena with slots := arena.slots.set id.index slot }

/-- Adds a group for a fresh open, whose first member is `member`. -/
def found (arena : GroupArena) (row : RowId) (cursor : Nat) (rights : Rights) (member : Handle) :
    GroupId × GroupArena :=
  let group : ShareGroup := ⟨row, cursor, rights, OrderedSet.singleton member⟩
  match arena.free.elements with
  | lowest :: _ =>
    (⟨lowest⟩, ⟨arena.slots.set lowest (some group), arena.free.erase lowest⟩)
  | [] => (⟨arena.slots.length⟩, { arena with slots := arena.slots ++ [some group] })

/-- Whether a fresh group would find no free slot and no memory for another one. -/
def exhausted (arena : GroupArena) (allotment : Allotment) : Bool :=
  arena.free.elements.isEmpty && !allotment.admitsGroup arena.slots.length

/-- Adds a group for a fresh open, if there is a slot or memory for it. -/
def create (arena : GroupArena) (allotment : Allotment) (row : RowId) (cursor : Nat)
    (rights : Rights) (member : Handle) : Except Error GroupId × GroupArena :=
  if arena.exhausted allotment then (.error .noMemory, arena)
  else
    let (id, next) := arena.found row cursor rights member
    (.ok id, next)

/-- Writes to a live group, which is looked up first. -/
def amend (arena : GroupArena) (id : GroupId) (f : ShareGroup → ShareGroup) :
    Except Fault Unit × GroupArena :=
  match arena.group? id with
  | some group => (.ok (), arena.setSlot id (some (f group)))
  | none => (.error (.deadGroup id), arena)

/-- Takes a member out of a live group and answers the group's row. A group that
has lost its last member is dissolved and its slot becomes free. Only when the
handle is out is it asserted that it was in. -/
def takeOut (arena : GroupArena) (id : GroupId) (member : Handle) :
    Except Fault RowId × GroupArena :=
  match arena.group? id with
  | none => (.error (.deadGroup id), arena)
  | some group =>
    let rest := group.members.erase member
    let taken := arena.setSlot id (some { group with members := rest })
    if member ∈ group.members then
      if rest = ∅ then
        (.ok group.row,
          { slots := taken.slots.set id.index none, free := OrderedSet.insert taken.free id.index })
      else (.ok group.row, taken)
    else (.error (.notMember member id), taken)

def setCursor (arena : GroupArena) (id : GroupId) (cursor : Nat) : Except Fault GroupArena :=
  let (answer, next) := arena.amend id fun group => { group with cursor := cursor }
  answer.map fun _ => next

def join (arena : GroupArena) (id : GroupId) (member : Handle) : Except Fault GroupArena :=
  let (answer, next) := arena.amend id fun group =>
    { group with members := OrderedSet.insert group.members member }
  answer.map fun _ => next

/-- The row that a departure answers and the arena it makes, unless it faults. -/
def leave (arena : GroupArena) (id : GroupId) (member : Handle) :
    Except Fault (RowId × GroupArena) :=
  let (answer, next) := arena.takeOut id member
  answer.map fun row => (row, next)

variable {arena : GroupArena} {id : GroupId}

/-- An arena that may grow as it likes is never exhausted. -/
theorem exhausted_unbounded (arena : GroupArena) (bytes : Nat) :
    arena.exhausted ⟨bytes, none⟩ = false := by
  simp [exhausted, Allotment.admitsGroup]

theorem create_of_exhausted {allotment : Allotment} (full : arena.exhausted allotment = true)
    (row : RowId) (cursor : Nat) (rights : Rights) (member : Handle) :
    arena.create allotment row cursor rights member = (.error .noMemory, arena) :=
  if_pos full

theorem create_of_not_exhausted {allotment : Allotment} (room : arena.exhausted allotment = false)
    (row : RowId) (cursor : Nat) (rights : Rights) (member : Handle) :
    arena.create allotment row cursor rights member =
      (.ok (arena.found row cursor rights member).1, (arena.found row cursor rights member).2) :=
  if_neg (Bool.eq_false_iff.mp room)

theorem index_lt_of_group? {group : ShareGroup} (alive : arena.group? id = some group) :
    id.index < arena.slots.length := by
  unfold group? at alive
  cases slot : arena.slots[id.index]? with
  | none => simp [slot] at alive
  | some _ => exact (List.getElem?_eq_some_iff.mp slot).1

theorem group?_setSlot (slot : Option ShareGroup) (inRange : id.index < arena.slots.length)
    (other : GroupId) :
    (arena.setSlot id slot).group? other = if id = other then slot else arena.group? other := by
  unfold group? setSlot
  rw [List.getElem?_set]
  by_cases same : id = other
  · subst same
    simp [inRange]
  · have apart : id.index ≠ other.index := fun h => same (by cases id; cases other; simp_all)
    simp [same, apart]

@[simp] theorem free_setSlot (slot : Option ShareGroup) :
    (arena.setSlot id slot).free = arena.free := rfl

theorem setSlot_self (group : ShareGroup) (live : arena.group? id = some group) :
    arena.setSlot id (some group) = arena := by
  have small := index_lt_of_group? live
  unfold group? at live
  rw [List.getElem?_eq_getElem small, Option.join_some] at live
  unfold setSlot
  rw [← live, List.set_getElem_self]

/-- Taking out a handle that was not in is a fault, and takes nothing out. -/
theorem takeOut_of_not_mem {group : ShareGroup} {member : Handle}
    (live : arena.group? id = some group) (outside : member ∉ group.members) :
    arena.takeOut id member = (.error (.notMember member id), arena) := by
  have whole : { group with members := group.members.erase member } = group := by
    rw [OrderedMap.erase_of_not_mem outside]
  simp only [takeOut, live, if_neg outside, whole, setSlot_self group live]

theorem leave_eq (arena : GroupArena) (id : GroupId) (member : Handle) :
    arena.leave id member =
      match arena.group? id with
      | none => .error (.deadGroup id)
      | some group =>
        if member ∈ group.members then
          if group.members.erase member = ∅ then
            .ok (group.row, { slots := arena.slots.set id.index none,
                              free := OrderedSet.insert arena.free id.index })
          else .ok (group.row,
            arena.setSlot id (some { group with members := group.members.erase member }))
        else .error (.notMember member id) := by
  unfold leave takeOut
  cases arena.group? id with
  | none => rfl
  | some group =>
    by_cases enrolled : member ∈ group.members
    · by_cases last : group.members.erase member = ∅
      · simp [enrolled, last, Except.map, setSlot]
      · simp [enrolled, last, Except.map]
    · simp [enrolled, Except.map]

/-- A departure that faults leaves the arena as it was. -/
theorem takeOut_eq (arena : GroupArena) (id : GroupId) (member : Handle) :
    arena.takeOut id member =
      match arena.leave id member with
      | .ok (row, next) => (.ok row, next)
      | .error fault => (.error fault, arena) := by
  cases live : arena.group? id with
  | none => simp only [leave, takeOut, live, Except.map]
  | some group =>
    by_cases enrolled : member ∈ group.members
    · simp only [leave, takeOut, live, if_pos enrolled]
      split <;> rfl
    · simp only [leave, takeOut_of_not_mem live enrolled, Except.map]

end GroupArena

end OpenFiles
