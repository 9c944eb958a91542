import OpenFiles.Service.Basic

/-!
# Creating, forking and ending processes

A process exists, for the tables, while it has a descriptor table. A fork gives
the child a copy of the parent's table; every open descriptor of the copy joins
the group of the one it was copied from and adds a handle to its row. Ending a
process drops its table first and then gives the handles back one by one.

`spawn` and `fork` choose the identifier themselves: the first one, from a
counter on and around the end of the words, that no process has. The counter
moves past every identifier that was tried, also when the attempt is refused in
the end.
-/

namespace OpenFiles

/-- The first identifier, from `start` on, that is not taken. After `tries`
taken ones in a row the next is answered unseen. -/
def Pid.firstFree (taken : Pid → Bool) : (tries : Nat) → (start : Pid) → Pid
  | 0, pid => pid
  | tries + 1, pid => if taken pid then firstFree taken tries pid.next else pid

namespace Service

variable {σ κ : Type}

open OpenFiles.Action

/-- Creates the table of a process, with the standard streams in it. -/
def createProcess (pid : Pid) : Action (Service σ κ) Unit := do
  let s ← get
  if s.tables.processes.contains pid then
    refuse .busy
  else
    let table ← orRefuse
      (DescriptorTable.ofSize s.capacities.processSlots s.allotment.bytes)
    setProcess pid table
    note (.created pid)

/-- Lets descriptors of `child` join groups, each with a handle of its own. -/
def inherit (child : Pid) : List (Descriptor × GroupId) → Action (Service σ κ) Unit
  | [] => return ()
  | (fd, id) :: rest => do
    let group ← group id
    retain group.row
    join id ⟨child, fd⟩
    inherit child rest

/-- Gives a new process every descriptor of `parent`. -/
def forkProcess (parent child : Pid) : Action (Service σ κ) Unit := do
  let table ← process parent
  let s ← get
  if s.tables.processes.contains child then
    refuse .busy
  else
    inherit child table.shared
    setProcess child table
    note (.forked parent child table.shared.length)

/-- Takes the next free identifier and moves the counter behind it. As many
tries as there are processes, and one more, find it. -/
def takePid : Action (Service σ κ) Pid :=
  step fun s =>
    let pid := Pid.firstFree s.tables.processes.contains s.tables.processes.size s.pidCounter
    (pid, { s with pidCounter := pid.next })

def spawn : Action (Service σ κ) Pid := do
  let pid ← takePid
  createProcess pid
  return pid

/-- Forks a process into a fresh identifier. For an unknown parent the first try
is the last. -/
def fork (parent : Pid) : Action (Service σ κ) Pid := do
  let s ← get
  if s.tables.processes.contains parent then
    let child ← takePid
    forkProcess parent child
    return child
  else
    set { s with pidCounter := s.pidCounter.next }
    refuse .noSuchEntry

variable [Storage σ]

/-- Lets descriptors of `pid` leave their groups, and drops their handles. -/
def abandon (pid : Pid) : List (Descriptor × GroupId) → Action (Service σ κ) Unit
  | [] => return ()
  | (fd, id) :: rest => do
    let row ← leave id ⟨pid, fd⟩
    let _ ← release row
    abandon pid rest

/-- Ends a process: drops its table and closes what it held. -/
def endProcess (pid : Pid) : Action (Service σ κ) Unit := do
  let table ← process pid
  modify fun s => s.withProcesses (s.tables.processes.erase pid)
  abandon pid table.shared
  note (.ended pid table.shared.length)

end Service

end OpenFiles
