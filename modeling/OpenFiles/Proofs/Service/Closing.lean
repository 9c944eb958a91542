import OpenFiles.Proofs.Tables.Departures
import OpenFiles.Service.Descriptors
import OpenFiles.Service.Processes

/-!
# What closing and ending can do

`Balanced` is the state of the tables between operations: the accounts are right
for the references that the processes hold. From such a state each operation has
only a few outcomes, and no fault is among them. `Closing` and `Ending` list the
outcomes of closing a descriptor and of ending a process; what an outcome leaves
behind is in the arguments of its constructor. Nothing later opens the definitions
of the two operations again.

What an operation prints is left open.
-/

namespace OpenFiles

/-- The accounts are right for the references that the processes hold. -/
def Tables.Balanced (tables : Tables) : Prop := tables.Accounts tables.references

/-- The accounts do not depend on the processes but through the references. -/
theorem Tables.Accounts.of_processes {tables : Tables} {refs : List Reference}
    (accounts : tables.Accounts refs) (processes : OrderedMap Pid DescriptorTable) :
    Tables.Accounts { tables with processes := processes } refs :=
  ⟨accounts.distinct, accounts.enrolled, accounts.populated, accounts.counted, accounts.positive,
    accounts.separate, accounts.tidy⟩

def releaseAll {σ : Type} [Storage σ] (gone : List Object) (store : σ) : σ :=
  gone.foldl (fun store object => Storage.release object store) store

namespace Service

variable {σ κ : Type}

open OpenFiles.Action

theorem run_attempt {t α : Type} (action : Action t α) (state : t) :
    (attempt action).run state =
      match action.run state with
      | .ok value after => .ok (.ok value) after
      | .error (.refused reason) after => .ok (.error reason) after
      | .error (.faulted fault) after => .error (.faulted fault) after := rfl

def withTables (s : Service σ κ) (tables : Tables) : Service σ κ := { s with tables := tables }

variable [Storage σ]

/-- The service with other tables, and with objects given back. -/
def relieved (s : Service σ κ) (tables : Tables) (gone : List Object) : Service σ κ :=
  { s with tables := tables, storage := releaseAll gone s.storage }

theorem relieved_relieved (s : Service σ κ) (first second : Tables) (gone later : List Object) :
    (s.relieved first gone).relieved second later = s.relieved second (gone ++ later) := by
  simp only [relieved, releaseAll, List.foldl_append]

variable {s : Service σ κ} {pid : Pid} {fd : Descriptor}

/-- A handle that leaves its group drops its handle on the row. -/
theorem run_leave_release {handle : Handle} {id : GroupId} {rest : List Reference}
    {file : OpenFile} {last : Option Object} {after : Tables}
    (leaving : Tables.Leaving s.tables handle id rest file last after) :
    ∃ row, (leave id handle).run s = .ok row (s.withGroups after.groups) ∧
      (release row).run (s.withGroups after.groups) =
        .ok last.isSome (s.relieved after last.toList) := by
  obtain ⟨row, left, released⟩ := leaving.steps
  refine ⟨row, by rw [run_leave, left], ?_⟩
  have there : (s.withGroups after.groups).tables.system.release row = .ok (last, after.system) :=
    released
  have processes := leaving.processes
  obtain ⟨system, groups, _⟩ := after
  subst processes
  rw [run_release, there]
  cases last <;> rfl

inductive Closing (s : Service σ κ) (pid : Pid) (fd : Descriptor) :
    EStateM.Result Stop (Service σ κ) Unit → Prop
  | unknown (missing : s.tables.processes.get? pid = none) :
      Closing s pid fd (.error (.refused .noSuchEntry) s)
  | empty {table : DescriptorTable} (found : s.tables.processes.get? pid = some table)
      (empty : table.slot? fd = none) : Closing s pid fd (.error (.refused .badDescriptor) s)
  | closed {table : DescriptorTable} {slot : Slot} {gone : List Object} {after : Tables}
      {journal : Journal} (found : s.tables.processes.get? pid = some table)
      (populated : table.slot? fd = some slot)
      (departures : Tables.Departures
        (s.withProcesses (s.tables.processes.insert pid (table.assign fd none))).tables
        (table.referencesAt pid fd)
        (referencesOf (s.tables.processes.insert pid (table.assign fd none))) gone after) :
      Closing s pid fd (.ok () ((s.relieved after gone).withJournal journal))

theorem closing (balanced : s.tables.Balanced) : Closing s pid fd ((close pid fd).run s) := by
  cases found : s.tables.processes.get? pid with
  | none =>
      have run : (close pid fd).run s = .error (.refused .noSuchEntry) s := by
        simp only [close, EStateM.run_bind, run_process, found]
      rw [run]
      exact .unknown found
  | some table =>
      cases slot : table.slot? fd with
      | none =>
          have run : (close pid fd).run s = .error (.refused .badDescriptor) s := by
            simp only [close, EStateM.run_bind, run_process, found,
              DescriptorTable.clear_of_empty slot, orRefuse_error, run_refuse]
          rw [run]
          exact .empty found slot
      | some contents =>
          have inRange := DescriptorTable.inRange_of_slot? slot
          have accounts : Tables.Accounts
              (s.withProcesses (s.tables.processes.insert pid (table.assign fd none))).tables
              (table.referencesAt pid fd ++
                referencesOf (s.tables.processes.insert pid (table.assign fd none))) :=
            (balanced.perm (referencesOf_perm_insert_assign_none found inRange)).of_processes _
          cases contents with
          | stream stream =>
              have nothing : table.referencesAt pid fd = [] :=
                DescriptorTable.referencesAt_stream slot
              rw [nothing, List.nil_append] at accounts
              have run : (close pid fd).run s = .ok ()
                  (s.withProcesses (s.tables.processes.insert pid (table.assign fd none))) := by
                simp only [close, EStateM.run_bind, run_process, found,
                  DescriptorTable.clear_of_slot? slot, orRefuse_ok, EStateM.run_pure,
                  run_setProcess]
              have outcome : Closing s pid fd (.ok () ((s.relieved _ []).withJournal s.journal)) :=
                .closed found slot (by rw [nothing]; exact .nil accounts)
              rw [run]
              exact outcome
          | shared id =>
              have one : table.referencesAt pid fd = [(⟨pid, fd⟩, id)] :=
                DescriptorTable.referencesAt_shared slot
              rw [one] at accounts
              obtain ⟨file, last, after, leaving, departures⟩ := accounts.departs
              rw [← one] at departures
              obtain ⟨row, left, released⟩ := run_leave_release leaving
              simp only [close, EStateM.run_bind, run_process, found,
                DescriptorTable.clear_of_slot? slot, orRefuse_ok, EStateM.run_pure,
                run_setProcess, left, released]
              cases last with
              | none => exact .closed found slot departures
              | some object => exact .closed found slot departures

/-- A populated descriptor is closed. -/
theorem run_close_of_slot? {table : DescriptorTable} {slot : Slot} (balanced : s.tables.Balanced)
    (found : s.tables.processes.get? pid = some table) (populated : table.slot? fd = some slot) :
    ∃ gone after journal,
      (close pid fd).run s = .ok () ((s.relieved after gone).withJournal journal) ∧
      Tables.Departures
        (s.withProcesses (s.tables.processes.insert pid (table.assign fd none))).tables
        (table.referencesAt pid fd)
        (referencesOf (s.tables.processes.insert pid (table.assign fd none))) gone after := by
  have outcome : Closing s pid fd ((close pid fd).run s) := closing balanced
  generalize (close pid fd).run s = result at outcome
  cases outcome with
  | unknown missing =>
      rw [found] at missing
      cases missing
  | empty found' vacant =>
      rw [found, Option.some.injEq] at found'
      subst found'
      rw [populated] at vacant
      cases vacant
  | @closed _ _ gone after journal found' _ departures =>
      rw [found, Option.some.injEq] at found'
      subst found'
      exact ⟨gone, after, journal, rfl, departures⟩

/-- Handles that are accounted for leave one after the other. -/
theorem run_abandon {list : List (Descriptor × GroupId)} {rest : List Reference}
    (accounts : s.tables.Accounts (list.map (fun (fd, id) => (⟨pid, fd⟩, id)) ++ rest)) :
    ∃ gone after, (abandon pid list).run s = .ok () (s.relieved after gone) ∧
      Tables.Departures s.tables (list.map fun (fd, id) => (⟨pid, fd⟩, id)) rest gone after := by
  induction list generalizing s with
  | nil => exact ⟨[], s.tables, rfl, .nil accounts⟩
  | cons entry list ih =>
      obtain ⟨fd, id⟩ := entry
      obtain ⟨file, last, middle, leaving⟩ := accounts.leaving
      obtain ⟨row, left, released⟩ := run_leave_release leaving
      have next : (s.relieved middle last.toList).tables.Accounts
          (list.map (fun (fd, id) => (⟨pid, fd⟩, id)) ++ rest) := leaving.accounts
      obtain ⟨gone, after, run, departures⟩ := ih next
      refine ⟨last.toList ++ gone, after, ?_, .cons leaving departures⟩
      rw [relieved_relieved] at run
      simp only [abandon, EStateM.run_bind, left, released, run]

inductive Ending (s : Service σ κ) (pid : Pid) : EStateM.Result Stop (Service σ κ) Unit → Prop
  | unknown (missing : s.tables.processes.get? pid = none) :
      Ending s pid (.error (.refused .noSuchEntry) s)
  | ended {table : DescriptorTable} {gone : List Object} {after : Tables} {journal : Journal}
      (found : s.tables.processes.get? pid = some table)
      (departures : Tables.Departures (s.withProcesses (s.tables.processes.erase pid)).tables
        (table.references pid) (referencesOf (s.tables.processes.erase pid)) gone after) :
      Ending s pid (.ok () ((s.relieved after gone).withJournal journal))

theorem ending (balanced : s.tables.Balanced) : Ending s pid ((endProcess pid).run s) := by
  cases found : s.tables.processes.get? pid with
  | none =>
      have run : (endProcess pid).run s = .error (.refused .noSuchEntry) s := by
        simp only [endProcess, EStateM.run_bind, run_process, found]
      rw [run]
      exact .unknown found
  | some table =>
      have accounts : Tables.Accounts (s.withProcesses (s.tables.processes.erase pid)).tables
          (table.references pid ++ referencesOf (s.tables.processes.erase pid)) :=
        (balanced.perm (referencesOf_perm_erase found)).of_processes _
      obtain ⟨gone, after, run, departures⟩ := run_abandon accounts
      have whole : (endProcess pid).run s = .ok () ((s.relieved after gone).withJournal
          (s.journal.note (.ended pid table.shared.length))) := by
        simp only [endProcess, EStateM.run_bind, run_process, found, EStateM.run_modify, run]
        rfl
      rw [whole]
      exact .ended found departures

/-- A process that exists comes to its end. -/
theorem run_endProcess_of_get? {table : DescriptorTable} (balanced : s.tables.Balanced)
    (found : s.tables.processes.get? pid = some table) :
    ∃ gone after journal,
      (endProcess pid).run s = .ok () ((s.relieved after gone).withJournal journal) ∧
      Tables.Departures (s.withProcesses (s.tables.processes.erase pid)).tables
        (table.references pid) (referencesOf (s.tables.processes.erase pid)) gone after := by
  have outcome : Ending s pid ((endProcess pid).run s) := ending balanced
  generalize (endProcess pid).run s = result at outcome
  cases outcome with
  | unknown missing =>
      rw [found] at missing
      cases missing
  | @ended _ gone after journal found' departures =>
      rw [found, Option.some.injEq] at found'
      subst found'
      exact ⟨gone, after, journal, rfl, departures⟩

end Service

end OpenFiles
