import OpenFiles.Action
import OpenFiles.Capacities
import OpenFiles.Console.ByteDevice
import OpenFiles.DescriptorTable
import OpenFiles.GroupArena
import OpenFiles.Journal
import OpenFiles.Object
import OpenFiles.OpenTable

/-!
# The open-file service: state and single steps

A `Service` is the state of the whole subsystem: the tables, the storage below
them, the console behind the standard streams, the counter for process
identifiers and the journal. It is generic in the storage and the console.

The operations on it are actions, put together in the modules beside this one
from the steps given here. Every step touches one part of the state. A step that
looks something up refuses or faults, and then changes nothing; for each step a
`run` lemma says so.
-/

namespace OpenFiles

/-- The tables of the subsystem: one row for each open object, one group for
each open, one descriptor table for each process. -/
structure Tables where
  system : OpenTable
  groups : GroupArena
  processes : OrderedMap Pid DescriptorTable
  deriving DecidableEq

/-- The state of the open-file subsystem over a storage and a console. -/
structure Service (σ κ : Type) where
  capacities : Capacities
  allotment : Allotment
  tables : Tables
  storage : σ
  console : κ
  pidCounter : Pid
  journal : Journal

namespace Service

variable {σ κ α : Type}

open OpenFiles.Action

/-- Builds the subsystem without processes. The first process identifier to be
tried is 1. -/
def build (capacities : Capacities) (storage : σ) (console : κ) (allotment : Allotment := {}) :
    Except Error (Service σ κ) := do
  capacities.check
  let system ← OpenTable.ofSize capacities.systemRows allotment.bytes
  return {
    capacities := capacities
    allotment := allotment
    tables := ⟨system, GroupArena.empty, ∅⟩
    storage := storage
    console := console
    pidCounter := ⟨1⟩
    journal := ({} : Journal).note (.ready capacities)
  }

def withSystem (s : Service σ κ) (system : OpenTable) : Service σ κ :=
  { s with tables := { s.tables with system := system } }

def withGroups (s : Service σ κ) (groups : GroupArena) : Service σ κ :=
  { s with tables := { s.tables with groups := groups } }

def withProcesses (s : Service σ κ) (processes : OrderedMap Pid DescriptorTable) : Service σ κ :=
  { s with tables := { s.tables with processes := processes } }

def withStorage (s : Service σ κ) (storage : σ) : Service σ κ := { s with storage := storage }

def withConsole (s : Service σ κ) (console : κ) : Service σ κ := { s with console := console }

def withAllotment (s : Service σ κ) (allotment : Allotment) : Service σ κ :=
  { s with allotment := allotment }

def withJournal (s : Service σ κ) (journal : Journal) : Service σ κ := { s with journal := journal }

/-- The size of a request from which on memory does not grant it. -/
def grantedBytes : Action (Service σ κ) Nat := return (← get).allotment.bytes

def note (notice : Notice) : Action (Service σ κ) Unit :=
  modify fun s => s.withJournal (s.journal.note notice)

def onStorage (request : σ → α × σ) : Action (Service σ κ) α :=
  zoom Service.storage withStorage (step request)

def onConsole (request : κ → α × κ) : Action (Service σ κ) α :=
  zoom Service.console withConsole (step request)

/-- Puts a request to the group arena. The arena is the one that the request leaves
behind, whether or not it faults. -/
def onGroups (request : GroupArena → Except Fault α × GroupArena) : Action (Service σ κ) α := do
  let s ← get
  let (answer, groups) := request s.tables.groups
  set (s.withGroups groups)
  orFail answer

def process (pid : Pid) : Action (Service σ κ) DescriptorTable := do
  match (← get).tables.processes.get? pid with
  | some table => return table
  | none => refuse .noSuchEntry

/-- Gives a process a table, in the place of its old one if it has one. -/
def setProcess (pid : Pid) (table : DescriptorTable) : Action (Service σ κ) Unit :=
  modify fun s => s.withProcesses (s.tables.processes.insert pid table)

def slot (pid : Pid) (fd : Descriptor) : Action (Service σ κ) Slot := do
  let table ← process pid
  orRefuse (table.slot fd)

def group (id : GroupId) : Action (Service σ κ) ShareGroup := do
  let s ← get
  orFail (s.tables.groups.group id)

/-- The object that the members of a group refer to. -/
def objectBehind (id : GroupId) : Action (Service σ κ) Object := do
  let group ← group id
  let s ← get
  orRefuse (s.tables.system.object group.row)

def setCursor (id : GroupId) (cursor : Nat) : Action (Service σ κ) Unit :=
  onGroups fun groups => groups.amend id fun group => { group with cursor := cursor }

/-- Moves the cursor of a group behind `count` bytes from `start` on. A cursor is
a word; one that would not be is a fault. -/
def advance (id : GroupId) (start count : Nat) : Action (Service σ κ) Unit :=
  if start + count < wordLimit then setCursor id (start + count) else fail .wordOverflow

def join (id : GroupId) (member : Handle) : Action (Service σ κ) Unit :=
  onGroups fun groups => groups.amend id fun group =>
    { group with members := OrderedSet.insert group.members member }

/-- Takes a member out of a group and answers the group's row. -/
def leave (id : GroupId) (member : Handle) : Action (Service σ κ) RowId :=
  onGroups fun groups => groups.takeOut id member

def retain (row : RowId) : Action (Service σ κ) Unit := do
  let s ← get
  let system ← orFail (s.tables.system.retain row)
  set (s.withSystem system)

def releaseObject [Storage σ] (object : Object) : Action (Service σ κ) Unit :=
  modify fun s => s.withStorage (Storage.release object s.storage)

/-- Drops a handle on a row of the system table. If it was the last one, the
object is released to the storage. Answers whether it was. -/
def release [Storage σ] (row : RowId) : Action (Service σ κ) Bool := do
  let s ← get
  let (last, system) ← orFail (s.tables.system.release row)
  set (s.withSystem system)
  match last with
  | some object =>
    releaseObject object
    return true
  | none => return false

section Run

variable (s : Service σ κ)

@[simp] theorem run_grantedBytes :
    (grantedBytes : Action (Service σ κ) Nat).run s = .ok s.allotment.bytes s := rfl

@[simp] theorem run_note (notice : Notice) :
    (note notice).run s = .ok () (s.withJournal (s.journal.note notice)) := rfl

@[simp] theorem run_onStorage (request : σ → α × σ) :
    (onStorage request : Action (Service σ κ) α).run s =
      .ok (request s.storage).1 (s.withStorage (request s.storage).2) := rfl

@[simp] theorem run_onConsole (request : κ → α × κ) :
    (onConsole request : Action (Service σ κ) α).run s =
      .ok (request s.console).1 (s.withConsole (request s.console).2) := rfl

theorem run_onGroups (request : GroupArena → Except Fault α × GroupArena) :
    (onGroups request : Action (Service σ κ) α).run s =
      match request s.tables.groups with
      | (.ok value, groups) => .ok value (s.withGroups groups)
      | (.error fault, groups) => .error (.faulted fault) (s.withGroups groups) := by
  rcases answer : request s.tables.groups with ⟨_ | _, groups⟩ <;>
    simp only [onGroups, EStateM.run_bind, EStateM.run_get, answer] <;> rfl

@[simp] theorem run_setProcess (pid : Pid) (table : DescriptorTable) :
    (setProcess pid table).run s =
      .ok () (s.withProcesses (s.tables.processes.insert pid table)) := rfl

@[simp] theorem run_releaseObject [Storage σ] (object : Object) :
    (releaseObject object).run s = .ok () (s.withStorage (Storage.release object s.storage)) := rfl

theorem run_process (pid : Pid) :
    (process pid).run s =
      match s.tables.processes.get? pid with
      | some table => .ok table s
      | none => .error (.refused .noSuchEntry) s := by
  simp only [process, EStateM.run_bind, EStateM.run_get]
  cases s.tables.processes.get? pid <;> rfl

theorem run_slot (pid : Pid) (fd : Descriptor) :
    (slot pid fd).run s =
      match s.tables.processes.get? pid with
      | some table =>
        match table.slot? fd with
        | some slot => .ok slot s
        | none => .error (.refused .badDescriptor) s
      | none => .error (.refused .noSuchEntry) s := by
  simp only [slot, EStateM.run_bind, run_process]
  cases s.tables.processes.get? pid with
  | none => rfl
  | some table =>
    simp only [DescriptorTable.slot]
    cases table.slot? fd <;> rfl

theorem run_group (id : GroupId) :
    (group id).run s =
      match s.tables.groups.group? id with
      | some group => .ok group s
      | none => .error (.faulted (.deadGroup id)) s := by
  simp only [group, EStateM.run_bind, EStateM.run_get, GroupArena.group]
  cases s.tables.groups.group? id <;> rfl

theorem run_objectBehind (id : GroupId) :
    (objectBehind id).run s =
      match s.tables.groups.group? id with
      | some group =>
        match s.tables.system.holding? group.row with
        | some holding => .ok holding.object s
        | none => .error (.refused .badDescriptor) s
      | none => .error (.faulted (.deadGroup id)) s := by
  simp only [objectBehind, EStateM.run_bind, run_group]
  cases s.tables.groups.group? id with
  | none => rfl
  | some group =>
    simp only [EStateM.run_get, OpenTable.object]
    cases s.tables.system.holding? group.row <;> rfl

theorem run_setCursor (id : GroupId) (cursor : Nat) :
    (setCursor id cursor).run s =
      match s.tables.groups.setCursor id cursor with
      | .ok groups => .ok () (s.withGroups groups)
      | .error fault => .error (.faulted fault) s := by
  simp only [setCursor, run_onGroups, GroupArena.setCursor, GroupArena.amend]
  cases s.tables.groups.group? id <;> rfl

theorem run_join (id : GroupId) (member : Handle) :
    (join id member).run s =
      match s.tables.groups.join id member with
      | .ok groups => .ok () (s.withGroups groups)
      | .error fault => .error (.faulted fault) s := by
  simp only [join, run_onGroups, GroupArena.join, GroupArena.amend]
  cases s.tables.groups.group? id <;> rfl

theorem run_leave (id : GroupId) (member : Handle) :
    (leave id member).run s =
      match s.tables.groups.leave id member with
      | .ok (row, groups) => .ok row (s.withGroups groups)
      | .error fault => .error (.faulted fault) s := by
  simp only [leave, run_onGroups, GroupArena.takeOut_eq]
  cases s.tables.groups.leave id member <;> rfl

theorem run_retain (row : RowId) :
    (retain row).run s =
      match s.tables.system.retain row with
      | .ok system => .ok () (s.withSystem system)
      | .error fault => .error (.faulted fault) s := by
  simp only [retain, EStateM.run_bind, EStateM.run_get]
  cases s.tables.system.retain row <;> rfl

theorem run_release [Storage σ] (row : RowId) :
    (release row).run s =
      match s.tables.system.release row with
      | .ok (some object, system) =>
        .ok true ((s.withSystem system).withStorage (Storage.release object s.storage))
      | .ok (none, system) => .ok false (s.withSystem system)
      | .error fault => .error (.faulted fault) s := by
  simp only [release, EStateM.run_bind, EStateM.run_get]
  cases s.tables.system.release row with
  | error fault => rfl
  | ok answer =>
    obtain ⟨last, system⟩ := answer
    cases last <;> rfl

end Run

end Service

end OpenFiles
