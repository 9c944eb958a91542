import OpenFiles.Console.MemoryConsole
import OpenFiles.FileTree.Storage
import OpenFiles.Proofs.Service.Runs

/-!
# Copies and taking them back

A fork lets a whole table of descriptors join the groups of another one, and a duplication one
descriptor. The end of the child, or a close, lets them leave again, one by one. What is left
then is the state before the copy, to the last count: `duplication_undone`.

The single joins and leaves are not matched with one another. Read backwards, an arrival is a
departure that hands nothing back, because every group that was joined has the member it was
copied from. What departures leave is determined by the references that remain, so those that
really take place lead to the same tables.
-/

namespace OpenFiles

namespace Tables

variable {tables after left : Tables} {entering refs : List Reference} {gone : List Object}

/-- Handles that have joined groups with other members can leave them again. That hands nothing
back, and the tables are as before they joined. -/
theorem Arrivals.departures (arrivals : Arrivals tables entering refs after)
    (accounts : tables.Accounts refs)
    (known : ∀ ref ∈ entering, ∃ handle, (handle, ref.2) ∈ refs) :
    Departures after entering refs [] tables where
  processes := arrivals.processes.symm
  size := arrivals.size.symm
  accounts := accounts
  files ref _ := (arrivals.files ref.2).symm
  remnant := arrivals.remnant
  held _ member := absurd member List.not_mem_nil
  once inode := by
    have stays : after.Refers entering inode → after.Refers refs inode := by
      rintro ⟨ref, enters, shown⟩
      obtain ⟨handle, present⟩ := known ref enters
      exact ⟨(handle, ref.2), present, shown⟩
    rw [if_neg fun both => both.2 (stays both.1)]
    rfl

/-- However they leave, it comes to the same. -/
theorem Arrivals.undone (arrivals : Arrivals tables entering refs after)
    (accounts : tables.Accounts refs)
    (known : ∀ ref ∈ entering, ∃ handle, (handle, ref.2) ∈ refs)
    (departures : Departures after entering refs gone left) : gone = [] ∧ left = tables := by
  have back := arrivals.departures accounts known
  have nothing := departures.perm_gone arrivals.accounts.separate back (.refl entering)
  exact ⟨nothing.eq_nil, departures.eq_tables back⟩

end Tables

namespace Service

open OpenFiles.Action

variable {σ κ : Type} [Storage σ] [ByteDevice κ]
variable {s : Service σ κ} {pid parent child : Pid} {old new : Descriptor}

/-- A request is undone by another one. If it is granted it leaves the storage alone, and the
other one, put right after it, is granted and leads back to the state before. What was printed
stays printed. -/
def Undone (s : Service σ κ) (request back : Request) : Prop :=
  ∀ reply later, (perform request).outcome s = (.ok reply, later) →
    later.storage = s.storage ∧
      ∃ restored, (perform back).outcome later = (.ok .done, restored) ∧
        restored.withJournal s.journal = s

omit [ByteDevice κ] in
/-- Once the processes are as before, and what had joined has left, all is as before. -/
theorem restored_of_departures {after left : Tables} {entering : List Reference}
    {gone : List Object} {processes later : OrderedMap Pid DescriptorTable}
    {journal journal' : Journal} (balanced : s.tables.Balanced)
    (arrivals : Tables.Arrivals s.tables entering s.tables.references after)
    (known : ∀ ref ∈ entering, ∃ handle, (handle, ref.2) ∈ s.tables.references)
    (same : later = s.tables.processes)
    (departures : Tables.Departures { after with processes := later } entering
      (referencesOf later) gone left) :
    (((((s.withTables after).withProcesses processes).withJournal journal).relieved left
      gone).withJournal journal').withJournal s.journal = s := by
  have kept : { after with processes := later } = after := by rw [same, ← arrivals.processes]
  rw [kept, same] at departures
  obtain ⟨rfl, rfl⟩ := arrivals.undone balanced known departures
  rfl

/-- The end of a child takes the fork back. -/
theorem forkProcess_undone (balanced : s.tables.Balanced) :
    s.Undone (.forkProcess parent child) (.endProcess child) := by
  intro reply later granted
  have balanced' := balanced_next balanced (.forkProcess parent child)
  rw [Service.next, granted] at balanced'
  have outcome : Forking s parent child ((forkProcess parent child).run s) := forking balanced
  rw [outcome_eq, perform, EStateM.run_bind] at granted
  generalize (forkProcess parent child).run s = result at outcome granted
  cases outcome with
  | unknown missing => cases granted
  | taken found present => cases granted
  | @forked table after journal found fresh arrivals =>
      cases granted
      have known : ∀ ref ∈ table.references child,
          ∃ handle, (handle, ref.2) ∈ s.tables.references := by
        rintro ⟨handle, id⟩ member
        obtain ⟨_, slot⟩ := DescriptorTable.mem_references_iff.mp member
        refine ⟨⟨parent, handle.descriptor⟩, mem_referencesOf_iff.mpr ?_⟩
        rw [found, Option.bind_some, slot]
      obtain ⟨gone, left, _, run, departures⟩ :=
        run_endProcess_of_get? balanced' (OrderedMap.get?_insert_self _ _ _)
      exact ⟨rfl, _, outcome_endProcess run, restored_of_departures balanced arrivals known
        (OrderedMap.erase_insert fresh table) departures⟩

omit [Storage σ] [ByteDevice κ] in
/-- An unused descriptor is unused without more ado. -/
theorem insert_assign_none {table : DescriptorTable}
    (found : s.tables.processes.get? pid = some table)
    (inRange : table.index? new = some new.number.toNat) (unused : table.slot? new = none) :
    s.tables.processes.insert pid (table.assign new none) = s.tables.processes := by
  rw [DescriptorTable.assign_none_of_empty inRange unused]
  exact OrderedMap.insert_of_get? found

/-- A close takes back what had been bound to a descriptor that was unused. -/
theorem close_restores {table : DescriptorTable} {contents : Slot} {after : Tables}
    {journal : Journal} (balanced : s.tables.Balanced)
    (found : s.tables.processes.get? pid = some table)
    (inRange : table.index? new = some new.number.toNat) (unused : table.slot? new = none)
    (arrivals : Tables.Arrivals s.tables ((table.assign new (some contents)).referencesAt pid new)
      s.tables.references after)
    (known : ∀ ref ∈ (table.assign new (some contents)).referencesAt pid new,
      ∃ handle, (handle, ref.2) ∈ s.tables.references)
    (balanced' : (((s.withTables after).withProcesses (s.tables.processes.insert pid
      (table.assign new (some contents)))).withJournal journal).tables.Balanced) :
    ∃ restored, (perform (.close pid new)).outcome (((s.withTables after).withProcesses
        (s.tables.processes.insert pid (table.assign new (some contents)))).withJournal
          journal) = (.ok .done, restored) ∧
      restored.withJournal s.journal = s := by
  obtain ⟨gone, left, _, run, departures⟩ := run_close_of_slot? balanced'
    (OrderedMap.get?_insert_self _ _ _) (DescriptorTable.slot?_assign_self inRange (some contents))
  have emptied : (s.tables.processes.insert pid (table.assign new (some contents))).insert pid
      ((table.assign new (some contents)).assign new none) = s.tables.processes := by
    rw [OrderedMap.insert_insert_self, DescriptorTable.assign_assign]
    exact insert_assign_none found inRange unused
  exact ⟨_, outcome_close run,
    restored_of_departures balanced arrivals known emptied departures⟩

omit [Storage σ] [ByteDevice κ] in
/-- Nothing leaves when an unused descriptor is emptied. -/
theorem unchanged_of_unused {table : DescriptorTable} {gone : List Object} {middle : Tables}
    (balanced : s.tables.Balanced) (found : s.tables.processes.get? pid = some table)
    (inRange : table.index? new = some new.number.toNat) (unused : table.slot? new = none)
    (departures : Tables.Departures
      (s.withProcesses (s.tables.processes.insert pid (table.assign new none))).tables
      (table.referencesAt pid new)
      (referencesOf (s.tables.processes.insert pid (table.assign new none))) gone middle) :
    gone = [] ∧ middle = s.tables := by
  rw [insert_assign_none found inRange unused,
    DescriptorTable.referencesAt_empty unused] at departures
  exact (Tables.Arrivals.nil balanced).undone balanced (List.forall_mem_nil _) departures

/-- A close takes a duplication back if the new descriptor was unused. -/
theorem duplicate_undone (balanced : s.tables.Balanced)
    (unused : s.tables.slot? ⟨pid, new⟩ = none) :
    s.Undone (.duplicate pid old new) (.close pid new) := by
  intro reply later granted
  have balanced' := balanced_next balanced (.duplicate pid old new)
  rw [Service.next, granted] at balanced'
  have outcome : Duplicating s pid old new ((duplicate pid old new).run s) := duplicating balanced
  rw [outcome_eq, perform, EStateM.run_bind] at granted
  generalize (duplicate pid old new).run s = result at outcome granted
  have vacant {table : DescriptorTable} (found : s.tables.processes.get? pid = some table) :
      table.slot? new = none := by
    rwa [Tables.slot?, found] at unused
  cases outcome with
  | unknown missing => cases granted
  | invalid found invalid => cases granted
  | itself found populated same =>
      rw [same, vacant found] at populated
      cases populated
  | @stream table stream gone middle journal found slot apart inRange departures =>
      cases granted
      obtain ⟨rfl, rfl⟩ := unchanged_of_unused balanced found inRange (vacant found) departures
      have nothing : (table.assign new (some (.stream stream))).referencesAt pid new = [] :=
        DescriptorTable.referencesAt_stream (DescriptorTable.slot?_assign_self inRange _)
      refine ⟨rfl, close_restores balanced found inRange (vacant found) ?_ ?_ balanced'⟩
      · rw [nothing]
        exact .nil balanced
      · rw [nothing]
        exact List.forall_mem_nil _
  | @shared table id gone middle after journal found slot apart inRange departures joining =>
      cases granted
      obtain ⟨rfl, rfl⟩ := unchanged_of_unused balanced found inRange (vacant found) departures
      rw [insert_assign_none found inRange (vacant found)] at joining
      have one : (table.assign new (some (.shared id))).referencesAt pid new =
          [(⟨pid, new⟩, id)] :=
        DescriptorTable.referencesAt_shared (DescriptorTable.slot?_assign_self inRange _)
      refine ⟨rfl, close_restores balanced found inRange (vacant found) ?_ ?_ balanced'⟩
      · rw [one]
        exact .cons joining (.nil joining.accounts)
      · rw [one]
        rintro ref member
        rw [List.mem_singleton.mp member]
        refine ⟨⟨pid, old⟩, mem_referencesOf_iff.mpr ?_⟩
        rw [found, Option.bind_some, slot]

/-- Copies of descriptors are undone by closing them. The end of a child right after the fork, and
the close of a new descriptor right after a duplication onto it, restore the state before to the
last count, of rows, of groups and their free slots, of processes and of the storage. No object
is released on the way: the storage, whatever it counts, is the same before, between and
after. -/
theorem duplication_undone {outside : σ → σ → Prop} (reached : Reachable outside s) :
    (∀ parent child, s.Undone (.forkProcess parent child) (.endProcess child)) ∧
      ∀ pid old new, s.tables.slot? ⟨pid, new⟩ = none →
        s.Undone (.duplicate pid old new) (.close pid new) :=
  ⟨fun _ _ => forkProcess_undone reached.balanced,
    fun _ _ _ unused => duplicate_undone reached.balanced unused⟩

/-- Two descriptors of the parent are in one group, and two groups are on one device. -/
theorem duplication_undone_shared :
    ∃ start s forked ended doubled closed : Service FileTree MemoryConsole,
      build ⟨4, 6⟩ FileTree.initial (.ofCapacity 4) = .ok start ∧
      start.after [.createProcess ⟨1⟩, .openPath ⟨1⟩ "/dev/null" (.ofBits 2) 0,
        .openPath ⟨1⟩ "/dev/null" (.ofBits 0) 0, .duplicate ⟨1⟩ ⟨3⟩ ⟨0⟩] = s ∧
      ((perform (.forkProcess ⟨1⟩ ⟨2⟩)).outcome s = (.ok .done, forked) ∧
        (perform (.endProcess ⟨2⟩)).outcome forked = (.ok .done, ended) ∧
        ended.withJournal s.journal = s) ∧
      s.tables.slot? ⟨⟨1⟩, ⟨5⟩⟩ = none ∧
      (perform (.duplicate ⟨1⟩ ⟨4⟩ ⟨5⟩)).outcome s = (.ok (.descriptor ⟨5⟩), doubled) ∧
        (perform (.close ⟨1⟩ ⟨5⟩)).outcome doubled = (.ok .done, closed) ∧
        closed.withJournal s.journal = s := by
  have built : build ⟨4, 6⟩ FileTree.initial (MemoryConsole.ofCapacity 4) = .ok _ := rfl
  have reached : Reachable Eq _ := Reachable.built built
  have before := reached.after [.createProcess ⟨1⟩, .openPath ⟨1⟩ "/dev/null" (.ofBits 2) 0,
    .openPath ⟨1⟩ "/dev/null" (.ofBits 0) 0, .duplicate ⟨1⟩ ⟨3⟩ ⟨0⟩]
  obtain ⟨forking, duplicating⟩ := duplication_undone before
  obtain ⟨_, ended, back⟩ := forking ⟨1⟩ ⟨2⟩ .done _ rfl
  obtain ⟨_, closed, restored⟩ := duplicating ⟨1⟩ ⟨4⟩ ⟨5⟩ rfl (.descriptor ⟨5⟩) _ rfl
  exact ⟨_, _, _, ended, _, closed, built, rfl, ⟨rfl, back⟩, rfl, rfl, restored⟩

end Service

end OpenFiles
