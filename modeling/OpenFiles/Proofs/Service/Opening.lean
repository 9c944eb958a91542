import OpenFiles.Proofs.Service.Closing
import OpenFiles.Proofs.Tables.Entries

/-!
# What opening a path can do

An open is refused before the storage is asked, by the storage, by the system table
when that is full, or because the process gets no descriptor. `Opening` has a
constructor for each, with what the storage is left with. After a refusal by a table the
object has been released, unless it was open before and came to the row it had.
-/

namespace OpenFiles

theorem Rights.ofOpenFlags_error {flags : OpenFlags} {reason : Error}
    (refused : Rights.ofOpenFlags flags = .error reason) : reason = .invalidArgument := by
  rw [Rights.ofOpenFlags, OpenFlags.openMode] at refused
  split at refused
  · cases refused
  · rename_i none
    split at none
    · cases none
    · cases none
      cases refused
      rfl

namespace OpenTable

def Full (table : OpenTable) (object : Object) : Prop :=
  table.rowOf? object = none ∧ table.freeRow? = none

theorem not_full_of_acquire {table : OpenTable} {object : Object} {result : RowId × OpenTable}
    (acquired : table.acquire object = .ok result) : ¬ table.Full object := by
  intro full
  have refused := acquire_eq_error_iff.mpr ⟨rfl, full⟩
  rw [acquired] at refused
  cases refused

end OpenTable

namespace Service

variable {σ κ : Type} {s : Service σ κ} {pid : Pid} {path : String}
variable {flags : OpenFlags} {permission : UInt32} {table : DescriptorTable}

open OpenFiles.Action

/-- A process with a free descriptor binds a fresh group to the lowest one. -/
theorem run_bindFresh_ok {fd : Descriptor} {row : RowId} {cursor : Nat} {rights : Rights}
    (found : s.tables.processes.get? pid = some table) (free : table.freeDescriptor = .ok fd)
    (granted : s.tables.groups.exhausted s.allotment = false) :
    (bindFresh pid row cursor rights).run s = .ok fd
      ((s.withGroups (s.tables.groups.found row cursor rights ⟨pid, fd⟩).2).withProcesses
        (s.tables.processes.insert pid (table.assign fd
          (some (.shared (s.tables.groups.found row cursor rights ⟨pid, fd⟩).1))))) := by
  obtain ⟨inRange, empty⟩ := DescriptorTable.freeDescriptor_ok free
  simp only [bindFresh, EStateM.run_bind, run_process, found, free, orRefuse_ok, EStateM.run_pure,
    EStateM.run_get, GroupArena.create_of_not_exhausted granted, EStateM.run_set,
    DescriptorTable.fill_eq_ok inRange empty, run_setProcess]
  rfl

/-- Why a process gets no descriptor for a fresh group: its slots are taken, or there is no
memory for the group. -/
inductive Unbindable (s : Service σ κ) (table : DescriptorTable) : Error → Prop
  | slots (full : table.freeDescriptor = .error .tooManyOpen) : Unbindable s table .tooManyOpen
  | memory {fd : Descriptor} (free : table.freeDescriptor = .ok fd)
      (exhausted : s.tables.groups.exhausted s.allotment = true) : Unbindable s table .noMemory

theorem bindable_or_unbindable (s : Service σ κ) (table : DescriptorTable) :
    (∃ fd, table.freeDescriptor = .ok fd ∧ s.tables.groups.exhausted s.allotment = false) ∨
      ∃ reason, s.Unbindable table reason := by
  cases free : table.freeDescriptor with
  | ok fd =>
      cases memory : s.tables.groups.exhausted s.allotment with
      | false => exact .inl ⟨fd, rfl, rfl⟩
      | true => exact .inr ⟨_, .memory free memory⟩
  | error reason =>
      have tooMany := DescriptorTable.freeDescriptor_error free
      subst tooMany
      exact .inr ⟨_, .slots free⟩

theorem run_bindFresh_error {reason : Error} (row : RowId) (cursor : Nat) (rights : Rights)
    (found : s.tables.processes.get? pid = some table) (unbindable : s.Unbindable table reason) :
    (bindFresh pid row cursor rights).run s = .error (.refused reason) s := by
  cases unbindable with
  | slots full =>
      simp only [bindFresh, EStateM.run_bind, run_process, found, full, orRefuse_error, run_refuse]
  | memory free exhausted =>
      simp only [bindFresh, EStateM.run_bind, run_process, found, free, orRefuse_ok,
        EStateM.run_pure, EStateM.run_get, GroupArena.create_of_exhausted exhausted,
        EStateM.run_set, orRefuse_error, run_refuse]
      rfl

variable [Storage σ]

inductive Opening (s : Service σ κ) (pid : Pid) (path : String) (flags : OpenFlags)
    (permission : UInt32) : EStateM.Result Stop (Service σ κ) Descriptor → Prop
  | direction (none : Rights.ofOpenFlags flags = .error .invalidArgument) :
      Opening s pid path flags permission (.error (.refused .invalidArgument) s)
  | unknown {rights : Rights} (asked : Rights.ofOpenFlags flags = .ok rights)
      (missing : s.tables.processes.get? pid = none) :
      Opening s pid path flags permission (.error (.refused .noSuchEntry) s)
  | storage {rights : Rights} {table : DescriptorTable} {reason : Error} {store : σ}
      {journal : Journal} (asked : Rights.ofOpenFlags flags = .ok rights)
      (found : s.tables.processes.get? pid = some table)
      (answer : Storage.openPath path flags permission s.storage = (.error reason, store)) :
      Opening s pid path flags permission
        (.error (.refused reason) ((s.withStorage store).withJournal journal))
  | systemFull {rights : Rights} {table : DescriptorTable} {object : Object} {store : σ}
      {journal : Journal} (asked : Rights.ofOpenFlags flags = .ok rights)
      (found : s.tables.processes.get? pid = some table)
      (answer : Storage.openPath path flags permission s.storage = (.ok object, store))
      (full : s.tables.system.Full object) :
      Opening s pid path flags permission (.error (.refused .tooManyOpenInSystem)
        ((s.withStorage (Storage.release object store)).withJournal journal))
  | unbound {rights : Rights} {table : DescriptorTable} {object : Object} {reason : Error}
      {store left : σ} {journal : Journal} (asked : Rights.ofOpenFlags flags = .ok rights)
      (found : s.tables.processes.get? pid = some table)
      (answer : Storage.openPath path flags permission s.storage = (.ok object, store))
      (room : ¬ s.tables.system.Full object) (unbindable : s.Unbindable table reason)
      (released : left = if s.tables.Refers s.tables.references object.inode then store
        else Storage.release object store) :
      Opening s pid path flags permission
        (.error (.refused reason) ((s.withStorage left).withJournal journal))
  | opened {rights : Rights} {table : DescriptorTable} {object : Object} {store : σ}
      {fd : Descriptor} {id : GroupId} {after : Tables} {journal : Journal}
      (asked : Rights.ofOpenFlags flags = .ok rights)
      (found : s.tables.processes.get? pid = some table)
      (answer : Storage.openPath path flags permission s.storage = (.ok object, store))
      (room : ¬ s.tables.system.Full object) (free : table.freeDescriptor = .ok fd)
      (granted : s.tables.groups.exhausted s.allotment = false)
      (entering : Tables.Entering s.tables object
        (if rights.append then Storage.sizeOf object store else 0) rights ⟨pid, fd⟩
        s.tables.references id after) :
      Opening s pid path flags permission (.ok fd ((((s.withStorage store).withTables
        after).withProcesses (s.tables.processes.insert pid
          (table.assign fd (some (.shared id))))).withJournal journal))

/-- A row that was taken in vain is given back, and with it an object that was not open
before. -/
theorem run_undoOpen (pid : Pid) (balanced : s.tables.Balanced) {object : Object} {row : RowId}
    {system : OpenTable} (acquired : s.tables.system.acquire object = .ok (row, system))
    (store : σ) (reason : Error) :
    ∃ left journal, (undoOpen pid row reason).run ((s.withStorage store).withSystem system) =
        .error (.refused reason) ((s.withStorage left).withJournal journal) ∧
      left = if s.tables.Refers s.tables.references object.inode then store
        else Storage.release object store := by
  have restored := OpenTable.release_of_acquire balanced.positive acquired
  obtain ⟨journal, start⟩ : ∃ journal,
      (undoOpen pid row reason).run ((s.withStorage store).withSystem system) =
        (do
          let _ ← release row
          refuse reason : Action (Service σ κ) Descriptor).run
            (((s.withStorage store).withSystem system).withJournal journal) := by
    rw [undoOpen]
    split
    · exact ⟨_, rfl⟩
    · exact ⟨s.journal, rfl⟩
  have there : (((s.withStorage store).withSystem system).withJournal
      journal).tables.system.release row = _ := restored
  rw [start]
  simp only [EStateM.run_bind, run_release, there, run_refuse]
  by_cases held : s.tables.Refers s.tables.references object.inode
  · have known : s.tables.system.rowOf? object ≠ none :=
      fun none => balanced.rowOf?_eq_none_iff.mp none held
    rw [if_neg known]
    exact ⟨store, journal, rfl, (if_pos held).symm⟩
  · have unknown := balanced.rowOf?_eq_none_iff.mpr held
    rw [if_pos unknown]
    exact ⟨Storage.release object store, journal, rfl, (if_neg held).symm⟩

/-- Once the storage has opened an object, the tables decide. -/
theorem opening_of_object (balanced : s.tables.Balanced) {rights : Rights} {object : Object}
    {store : σ} (asked : Rights.ofOpenFlags flags = .ok rights)
    (found : s.tables.processes.get? pid = some table)
    (answer : Storage.openPath path flags permission s.storage = (.ok object, store)) :
    Opening s pid path flags permission ((openPath pid path flags permission).run s) := by
  cases acquired : s.tables.system.acquire object with
  | error reason =>
      obtain ⟨rfl, full⟩ := OpenTable.acquire_eq_error_iff.mp acquired
      have acquiredHere : (s.withStorage store).tables.system.acquire object =
          .error .tooManyOpenInSystem := acquired
      simp only [openPath, EStateM.run_bind, run_process, found, asked, orRefuse_ok,
        EStateM.run_pure, run_onStorage, answer, EStateM.run_get, acquiredHere, run_note,
        run_releaseObject, run_refuse]
      exact .systemFull asked found answer full
  | ok result =>
      obtain ⟨row, system⟩ := result
      have acquiredHere : (s.withStorage store).tables.system.acquire object = .ok (row, system) :=
        acquired
      have foundHere : ((s.withStorage store).withSystem system).tables.processes.get? pid =
          some table := found
      have room := OpenTable.not_full_of_acquire acquired
      simp only [openPath, EStateM.run_bind, run_process, found, asked, orRefuse_ok,
        EStateM.run_pure, run_onStorage, answer, EStateM.run_get, acquiredHere, EStateM.run_set,
        run_attempt]
      rcases s.bindable_or_unbindable table with ⟨fd, free, granted⟩ | ⟨reason, unbindable⟩
      · have absent : ∀ id, ((⟨pid, fd⟩, id) : Reference) ∉ s.tables.references := by
          intro id member
          have slot := mem_referencesOf_iff.mp member
          rw [found, Option.bind_some, (DescriptorTable.freeDescriptor_ok free).2] at slot
          cases slot
        have entering := balanced.entering acquired
          (if rights.append then Storage.sizeOf object store else 0) rights ⟨pid, fd⟩ absent
        rw [run_bindFresh_ok foundHere free granted]
        exact .opened asked found answer room free granted entering
      · have here : ((s.withStorage store).withSystem system).Unbindable table reason := by
          cases unbindable with
          | slots full => exact .slots full
          | memory free exhausted => exact .memory free exhausted
        obtain ⟨left, journal, run, released⟩ :=
          run_undoOpen pid balanced acquired store reason
        rw [run_bindFresh_error _ _ _ foundHere here]
        dsimp only
        rw [run]
        exact .unbound asked found answer room unbindable released

/-- Every open has one of the outcomes. -/
theorem opening (balanced : s.tables.Balanced) :
    Opening s pid path flags permission ((openPath pid path flags permission).run s) := by
  cases asked : Rights.ofOpenFlags flags with
  | error reason =>
      have invalid := Rights.ofOpenFlags_error asked
      subst invalid
      have run : (openPath pid path flags permission).run s =
          .error (.refused .invalidArgument) s := by
        simp only [openPath, EStateM.run_bind, asked, orRefuse_error, run_refuse]
      rw [run]
      exact .direction asked
  | ok rights =>
      cases found : s.tables.processes.get? pid with
      | none =>
          have run : (openPath pid path flags permission).run s =
              .error (.refused .noSuchEntry) s := by
            simp only [openPath, EStateM.run_bind, asked, orRefuse_ok, EStateM.run_pure,
              run_process, found]
          rw [run]
          exact .unknown asked found
      | some table =>
          cases answer : Storage.openPath path flags permission s.storage with
          | mk verdict store =>
              cases verdict with
              | error reason =>
                  simp only [openPath, EStateM.run_bind, asked, orRefuse_ok, EStateM.run_pure,
                    run_process, found, run_onStorage, answer, run_note, run_refuse]
                  exact .storage asked found answer
              | ok object => exact opening_of_object balanced asked found answer

end Service

end OpenFiles
