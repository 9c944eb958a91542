import OpenFiles.Proofs.Service.Closing

/-!
# What creating, forking and duplicating can do

A fork and a duplication add handles to groups that exist already. A duplication
onto a populated descriptor empties that one first; its outcome names what has
left and been handed back before the new handle joins.
-/

namespace OpenFiles

namespace Tables

variable {tables middle after : Tables} {entering refs : List Reference} {ref : Reference}

/-- What several handles joining groups one after the other leave behind. -/
structure Arrivals (tables : Tables) (entering refs : List Reference) (after : Tables) : Prop where
  processes : after.processes = tables.processes
  size : after.system.size = tables.system.size
  accounts : after.Accounts (entering ++ refs)
  files : ∀ id, after.file? id = tables.file? id
  remnant : Remnant after tables

theorem Arrivals.nil (accounts : tables.Accounts refs) : Arrivals tables [] refs tables :=
  ⟨rfl, rfl, accounts, fun _ => rfl, .refl tables⟩

theorem Arrivals.cons (first : Joining tables ref.1 ref.2 refs middle)
    (others : Arrivals middle entering (ref :: refs) after) :
    Arrivals tables (ref :: entering) refs after where
  processes := others.processes.trans first.processes
  size := others.size.trans first.size
  accounts := others.accounts.perm List.perm_middle
  files id := (others.files id).trans (first.files id)
  remnant := others.remnant.trans first.remnant

/-- The processes have no part in what departures do. -/
theorem Departures.of_processes {leaving rest : List Reference} {gone : List Object}
    (departures : Departures tables leaving rest gone after)
    (processes : OrderedMap Pid DescriptorTable) :
    Departures { tables with processes := processes } leaving rest gone
      { after with processes := processes } :=
  ⟨rfl, departures.size, departures.accounts.of_processes processes, departures.files,
    ⟨departures.remnant.width, departures.remnant.groups, departures.remnant.objects⟩,
    departures.held, departures.once⟩

end Tables

namespace Service

variable {σ κ : Type} {s : Service σ κ} {pid parent child : Pid} {old new : Descriptor}

open OpenFiles.Action

inductive Creating (s : Service σ κ) (pid : Pid) :
    EStateM.Result Stop (Service σ κ) Unit → Prop
  | taken (present : pid ∈ s.tables.processes) : Creating s pid (.error (.refused .busy) s)
  | huge (large : DescriptorTable.ofSize s.capacities.processSlots s.allotment.bytes =
        .error .noMemory) :
      Creating s pid (.error (.refused .noMemory) s)
  | created {table : DescriptorTable} {journal : Journal} (fresh : pid ∉ s.tables.processes)
      (made : DescriptorTable.ofSize s.capacities.processSlots s.allotment.bytes = .ok table) :
      Creating s pid
        (.ok () ((s.withProcesses (s.tables.processes.insert pid table)).withJournal journal))

theorem creating (s : Service σ κ) (pid : Pid) : Creating s pid ((createProcess pid).run s) := by
  by_cases present : pid ∈ s.tables.processes
  · have run : (createProcess pid).run s = .error (.refused .busy) s := by
      simp only [createProcess, EStateM.run_bind, EStateM.run_get]
      rw [if_pos (OrderedMap.contains_iff.mpr present)]
      rfl
    rw [run]
    exact .taken present
  · have start : (createProcess pid).run s = (do
        let table ← orRefuse
          (DescriptorTable.ofSize s.capacities.processSlots s.allotment.bytes)
        setProcess pid table
        note (.created pid) : Action (Service σ κ) Unit).run s := by
      simp only [createProcess, EStateM.run_bind, EStateM.run_get]
      rw [if_neg (mt OrderedMap.contains_iff.mp present)]
      rfl
    rw [start]
    cases made : DescriptorTable.ofSize s.capacities.processSlots s.allotment.bytes with
    | error reason =>
        have memory := DescriptorTable.error_ofSize made
        subst memory
        exact .huge made
    | ok table => exact .created present made

/-- Handles can join groups that are referred to. -/
theorem run_inherit {list : List (Descriptor × GroupId)} {refs : List Reference}
    (accounts : s.tables.Accounts refs) (distinct : list.Nodup)
    (known : ∀ entry ∈ list, ∃ handle, (handle, entry.2) ∈ refs)
    (absent : ∀ entry ∈ list, (⟨child, entry.1⟩, entry.2) ∉ refs) :
    ∃ after, (inherit child list).run s = .ok () (s.withTables after) ∧
      Tables.Arrivals s.tables (list.map fun (fd, id) => (⟨child, fd⟩, id)) refs after := by
  induction list generalizing s refs with
  | nil => exact ⟨s.tables, rfl, .nil accounts⟩
  | cons entry list ih =>
      obtain ⟨fd, id⟩ := entry
      obtain ⟨newEntry, others⟩ := List.nodup_cons.mp distinct
      obtain ⟨handle, present⟩ := known (fd, id) List.mem_cons_self
      obtain ⟨middle, joining⟩ := accounts.joining present (absent (fd, id) List.mem_cons_self)
      obtain ⟨group, live, retained, joined⟩ := joining.steps
      have apart : ∀ entry ∈ list,
          ((⟨child, entry.1⟩, entry.2) : Reference) ∉ (⟨child, fd⟩, id) :: refs := by
        intro entry member
        rw [List.mem_cons, not_or]
        refine ⟨?_, absent entry (List.mem_cons_of_mem _ member)⟩
        intro same
        simp only [Prod.mk.injEq, Handle.mk.injEq, true_and] at same
        have : entry = (fd, id) := Prod.ext same.1 same.2
        exact newEntry (this ▸ member)
      have next : (s.withTables middle).tables.Accounts ((⟨child, fd⟩, id) :: refs) :=
        joining.accounts
      have stillKnown : ∀ entry ∈ list,
          ∃ handle, (handle, entry.2) ∈ (⟨child, fd⟩, id) :: refs := by
        intro entry member
        obtain ⟨handle, there⟩ := known entry (List.mem_cons_of_mem _ member)
        exact ⟨handle, List.mem_cons_of_mem _ there⟩
      obtain ⟨after, run, arrivals⟩ := ih next others stillKnown apart
      refine ⟨after, ?_, .cons joining arrivals⟩
      have processes := joining.processes
      obtain ⟨system, groups, _⟩ := middle
      subst processes
      have joinedHere : (s.withSystem system).tables.groups.join id ⟨child, fd⟩ = .ok groups :=
        joined
      simp only [inherit, EStateM.run_bind, run_group, live, run_retain, retained, run_join,
        joinedHere]
      exact run

inductive Forking (s : Service σ κ) (parent child : Pid) :
    EStateM.Result Stop (Service σ κ) Unit → Prop
  | unknown (missing : s.tables.processes.get? parent = none) :
      Forking s parent child (.error (.refused .noSuchEntry) s)
  | taken {table : DescriptorTable} (found : s.tables.processes.get? parent = some table)
      (present : child ∈ s.tables.processes) : Forking s parent child (.error (.refused .busy) s)
  | forked {table : DescriptorTable} {after : Tables} {journal : Journal}
      (found : s.tables.processes.get? parent = some table) (fresh : child ∉ s.tables.processes)
      (arrivals : Tables.Arrivals s.tables (table.references child) s.tables.references after) :
      Forking s parent child (.ok () (((s.withTables after).withProcesses
        (s.tables.processes.insert child table)).withJournal journal))

theorem forking (balanced : s.tables.Balanced) :
    Forking s parent child ((forkProcess parent child).run s) := by
  cases found : s.tables.processes.get? parent with
  | none =>
      have run : (forkProcess parent child).run s = .error (.refused .noSuchEntry) s := by
        simp only [forkProcess, EStateM.run_bind, run_process, found]
      rw [run]
      exact .unknown found
  | some table =>
      by_cases present : child ∈ s.tables.processes
      · have run : (forkProcess parent child).run s = .error (.refused .busy) s := by
          simp only [forkProcess, EStateM.run_bind, run_process, found, EStateM.run_get]
          rw [if_pos (OrderedMap.contains_iff.mpr present)]
          rfl
        rw [run]
        exact .taken found present
      · have start : (forkProcess parent child).run s = (do
            inherit child table.shared
            setProcess child table
            note (.forked parent child table.shared.length) : Action (Service σ κ) Unit).run s := by
          simp only [forkProcess, EStateM.run_bind, run_process, found, EStateM.run_get]
          rw [if_neg (mt OrderedMap.contains_iff.mp present)]
          rfl
        have known : ∀ entry ∈ table.shared, ∃ handle, (handle, entry.2) ∈ s.tables.references := by
          rintro ⟨fd, id⟩ member
          refine ⟨⟨parent, fd⟩, mem_referencesOf_iff.mpr ?_⟩
          rw [found]
          exact DescriptorTable.mem_shared_iff.mp member
        have absent : ∀ entry ∈ table.shared,
            ((⟨child, entry.1⟩, entry.2) : Reference) ∉ s.tables.references := by
          intro entry _ there
          have := mem_referencesOf_iff.mp there
          rw [OrderedMap.not_mem_iff.mp present] at this
          cases this
        obtain ⟨after, run, arrivals⟩ := run_inherit balanced table.nodup_shared known absent
        have processes := arrivals.processes
        rw [start]
        simp only [EStateM.run_bind, run]
        change Forking s parent child (.ok () (((s.withTables after).withProcesses
          (after.processes.insert child table)).withJournal _))
        rw [processes]
        exact .forked found present arrivals

def withCounter (s : Service σ κ) (counter : Pid) : Service σ κ := { s with pidCounter := counter }

def freshPid (s : Service σ κ) : Pid :=
  Pid.firstFree s.tables.processes.contains s.tables.processes.size s.pidCounter

/-- A spawn is a creation under the identifier that comes up next. -/
theorem run_spawn (s : Service σ κ) :
    (spawn : Action (Service σ κ) Pid).run s =
      (createProcess s.freshPid >>= fun _ => pure s.freshPid).run
        (s.withCounter s.freshPid.next) := rfl

theorem run_fork (s : Service σ κ) (parent : Pid) :
    (fork parent).run s =
      if s.tables.processes.contains parent then
        (forkProcess parent s.freshPid >>= fun _ => pure s.freshPid).run
          (s.withCounter s.freshPid.next)
      else .error (.refused .noSuchEntry) (s.withCounter s.pidCounter.next) := by
  simp only [fork, EStateM.run_bind, EStateM.run_get]
  split <;> rfl

/-- Populates an empty descriptor with what another one of the process refers to. -/
def bindSlot (pid : Pid) (fd : Descriptor) (slot : Slot) : Action (Service σ κ) Descriptor := do
  let table ← process pid
  let table ← orRefuse (table.fill fd slot)
  setProcess pid table
  match slot with
  | .stream _ => return fd
  | .shared id =>
    let group ← group id
    retain group.row
    join id ⟨pid, fd⟩
    return fd

theorem run_bindSlot_stream {vacant : DescriptorTable} {fd : Descriptor}
    (found : s.tables.processes.get? pid = some vacant)
    (inRange : vacant.index? fd = some fd.number.toNat) (empty : vacant.slot? fd = none)
    (stream : StandardStream) :
    (bindSlot pid fd (.stream stream)).run s = .ok fd (s.withProcesses
      (s.tables.processes.insert pid (vacant.assign fd (some (.stream stream))))) := by
  simp only [bindSlot, EStateM.run_bind, run_process, found,
    DescriptorTable.fill_eq_ok inRange empty, orRefuse_ok, EStateM.run_pure, run_setProcess]

theorem run_bindSlot_shared {vacant : DescriptorTable} {fd : Descriptor} {id : GroupId}
    {refs : List Reference} {after : Tables} (found : s.tables.processes.get? pid = some vacant)
    (inRange : vacant.index? fd = some fd.number.toNat) (empty : vacant.slot? fd = none)
    (joining : Tables.Joining s.tables ⟨pid, fd⟩ id refs after) :
    (bindSlot pid fd (.shared id)).run s = .ok fd ((s.withTables after).withProcesses
      (s.tables.processes.insert pid (vacant.assign fd (some (.shared id))))) := by
  obtain ⟨group, live, retained, joined⟩ := joining.steps
  have liveHere : (s.withProcesses (s.tables.processes.insert pid
      (vacant.assign fd (some (.shared id))))).tables.groups.group? id = some group := live
  have retainedHere : (s.withProcesses (s.tables.processes.insert pid
      (vacant.assign fd (some (.shared id))))).tables.system.retain group.row =
        .ok after.system := retained
  have joinedHere : ((s.withProcesses (s.tables.processes.insert pid
      (vacant.assign fd (some (.shared id))))).withSystem after.system).tables.groups.join id
        ⟨pid, fd⟩ = .ok after.groups := joined
  simp only [bindSlot, EStateM.run_bind, run_process, found,
    DescriptorTable.fill_eq_ok inRange empty, orRefuse_ok, EStateM.run_pure, run_setProcess,
    run_group, liveHere, run_retain, retainedHere, run_join, joinedHere]
  rfl

variable [Storage σ] {table : DescriptorTable}

/-- A descriptor is emptied before it is used again, and the rest of the operation
goes on from there. -/
theorem run_vacate (balanced : s.tables.Balanced)
    (found : s.tables.processes.get? pid = some table)
    (inRange : table.index? new = some new.number.toNat) :
    ∃ gone after journal,
      (∀ {α : Type} (rest : Action (Service σ κ) α),
        (if table.isPopulated new = true then attempt (close pid new) >>= fun _ => rest
          else rest).run s = rest.run ((s.relieved after gone).withJournal journal)) ∧
      Tables.Departures
        (s.withProcesses (s.tables.processes.insert pid (table.assign new none))).tables
        (table.referencesAt pid new)
        (referencesOf (s.tables.processes.insert pid (table.assign new none))) gone after := by
  cases slot : table.slot? new with
  | none =>
      have unchanged : s.tables.processes.insert pid (table.assign new none) =
          s.tables.processes := by
        rw [DescriptorTable.assign_none_of_empty inRange slot]
        exact OrderedMap.insert_of_get? found
      have nothing : table.referencesAt pid new = [] := DescriptorTable.referencesAt_empty slot
      have unpopulated : table.isPopulated new = false := by
        rw [DescriptorTable.isPopulated, slot]
        rfl
      refine ⟨[], s.tables, s.journal, ?_, ?_⟩
      · intro α rest
        rw [unpopulated]
        rfl
      · rw [unchanged, nothing]
        exact .nil balanced
  | some contents =>
      have populated : table.isPopulated new = true :=
        DescriptorTable.isPopulated_iff.mpr ⟨contents, slot⟩
      obtain ⟨gone, after, journal, run, departures⟩ := run_close_of_slot? balanced found slot
      refine ⟨gone, after, journal, ?_, departures⟩
      intro α rest
      rw [populated, if_pos rfl, EStateM.run_bind, run_attempt, run]

inductive Duplicating (s : Service σ κ) (pid : Pid) (old new : Descriptor) :
    EStateM.Result Stop (Service σ κ) Descriptor → Prop
  | unknown (missing : s.tables.processes.get? pid = none) :
      Duplicating s pid old new (.error (.refused .noSuchEntry) s)
  | invalid {table : DescriptorTable} (found : s.tables.processes.get? pid = some table)
      (invalid : table.slot? old = none ∨ table.index? new = none) :
      Duplicating s pid old new (.error (.refused .badDescriptor) s)
  | itself {table : DescriptorTable} {slot : Slot}
      (found : s.tables.processes.get? pid = some table)
      (populated : table.slot? old = some slot) (same : old = new) :
      Duplicating s pid old new (.ok new s)
  | stream {table : DescriptorTable} {stream : StandardStream} {gone : List Object}
      {middle : Tables} {journal : Journal} (found : s.tables.processes.get? pid = some table)
      (slot : table.slot? old = some (.stream stream)) (apart : old ≠ new)
      (inRange : table.index? new = some new.number.toNat)
      (departures : Tables.Departures
        (s.withProcesses (s.tables.processes.insert pid (table.assign new none))).tables
        (table.referencesAt pid new)
        (referencesOf (s.tables.processes.insert pid (table.assign new none))) gone middle) :
      Duplicating s pid old new (.ok new (((s.relieved middle gone).withProcesses
        (s.tables.processes.insert pid (table.assign new (some (.stream stream))))).withJournal
          journal))
  | shared {table : DescriptorTable} {id : GroupId} {gone : List Object}
      {middle after : Tables} {journal : Journal}
      (found : s.tables.processes.get? pid = some table)
      (slot : table.slot? old = some (.shared id)) (apart : old ≠ new)
      (inRange : table.index? new = some new.number.toNat)
      (departures : Tables.Departures
        (s.withProcesses (s.tables.processes.insert pid (table.assign new none))).tables
        (table.referencesAt pid new)
        (referencesOf (s.tables.processes.insert pid (table.assign new none))) gone middle)
      (joining : Tables.Joining middle ⟨pid, new⟩ id
        (referencesOf (s.tables.processes.insert pid (table.assign new none))) after) :
      Duplicating s pid old new (.ok new (((s.relieved after gone).withProcesses
        (s.tables.processes.insert pid (table.assign new (some (.shared id))))).withJournal
          journal))

/-- The new descriptor is another one than the old: what it referred to leaves, and
the contents of the old descriptor are bound to it. -/
theorem duplicating_apart {contents : Slot} (balanced : s.tables.Balanced)
    (found : s.tables.processes.get? pid = some table) (slot : table.slot? old = some contents)
    (apart : old ≠ new) (inRange : table.index? new = some new.number.toNat) :
    Duplicating s pid old new
      ((if table.isPopulated new = true then
        attempt (close pid new) >>= fun _ => bindSlot pid new contents
      else bindSlot pid new contents).run s) := by
  obtain ⟨gone, middle, journal, run, departures⟩ := run_vacate balanced found inRange
  have vacantRange : (table.assign new none).index? new = some new.number.toNat :=
    (DescriptorTable.index?_assign none).trans inRange
  have vacant : (table.assign new none).slot? new = none :=
    DescriptorTable.slot?_assign_self inRange none
  have foundMiddle : middle.processes.get? pid = some (table.assign new none) := by
    rw [departures.processes]
    exact OrderedMap.get?_insert_self _ _ _
  have back (contents : Option Slot) :
      middle.processes.insert pid ((table.assign new none).assign new contents) =
        s.tables.processes.insert pid (table.assign new contents) := by
    rw [departures.processes, DescriptorTable.assign_assign]
    exact OrderedMap.insert_insert_self _ _ _ _
  rw [run]
  cases contents with
  | stream stream =>
      rw [run_bindSlot_stream foundMiddle vacantRange vacant]
      change Duplicating s pid old new (.ok new (((s.relieved middle gone).withProcesses
        (middle.processes.insert pid _)).withJournal journal))
      rw [back]
      exact .stream found slot apart inRange departures
  | shared id =>
      have known : ((⟨pid, old⟩, id) : Reference) ∈
          referencesOf (s.tables.processes.insert pid (table.assign new none)) :=
        mem_referencesOf_insert_assign_none inRange (Ne.symm apart) slot
      have absent : ((⟨pid, new⟩, id) : Reference) ∉
          referencesOf (s.tables.processes.insert pid (table.assign new none)) := by
        rw [mem_referencesOf_iff, OrderedMap.get?_insert_self, Option.bind_some, vacant]
        simp
      obtain ⟨after, joining⟩ := departures.accounts.joining known absent
      have joiningHere : Tables.Joining
          ((s.relieved middle gone).withJournal journal).tables ⟨pid, new⟩ id _ after := joining
      rw [run_bindSlot_shared foundMiddle vacantRange vacant joiningHere]
      change Duplicating s pid old new (.ok new (((s.relieved after gone).withProcesses
        (middle.processes.insert pid _)).withJournal journal))
      rw [back]
      exact .shared found slot apart inRange departures joining

theorem duplicating (balanced : s.tables.Balanced) :
    Duplicating s pid old new ((duplicate pid old new).run s) := by
  cases found : s.tables.processes.get? pid with
  | none =>
      have run : (duplicate pid old new).run s = .error (.refused .noSuchEntry) s := by
        simp only [duplicate, EStateM.run_bind, run_process, found]
      rw [run]
      exact .unknown found
  | some table =>
      cases slot : table.slot? old with
      | none =>
          have run : (duplicate pid old new).run s = .error (.refused .badDescriptor) s := by
            simp only [duplicate, EStateM.run_bind, run_process, found,
              DescriptorTable.requireInRange, DescriptorTable.slot, slot]
            cases table.index? old <;> cases table.index? new <;> rfl
          rw [run]
          exact .invalid found (.inl slot)
      | some contents =>
          have oldInRange := DescriptorTable.inRange_of_slot? slot
          cases there : table.index? new with
          | none =>
              have run : (duplicate pid old new).run s = .error (.refused .badDescriptor) s := by
                simp only [duplicate, EStateM.run_bind, run_process, found,
                  DescriptorTable.requireInRange, oldInRange, there, orRefuse_ok, EStateM.run_pure,
                  orRefuse_error, run_refuse]
              rw [run]
              exact .invalid found (.inr there)
          | some index =>
              have inRange : table.index? new = some new.number.toNat := by
                obtain ⟨number, _⟩ := DescriptorTable.index?_eq_some_iff.mp there
                rw [there, number]
                rfl
              have start : (duplicate pid old new).run s =
                  (if old = new then pure new
                  else if table.isPopulated new = true then
                    attempt (close pid new) >>= fun _ => bindSlot pid new contents
                  else bindSlot pid new contents).run s := by
                simp only [duplicate, EStateM.run_bind, run_process, found,
                  DescriptorTable.requireInRange, oldInRange, inRange, DescriptorTable.slot, slot,
                  orRefuse_ok, EStateM.run_pure]
                rfl
              rw [start]
              by_cases same : old = new
              · rw [if_pos same]
                exact .itself found slot same
              · rw [if_neg same]
                exact duplicating_apart balanced found slot same inRange

end Service

end OpenFiles
