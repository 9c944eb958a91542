import OpenFiles.Proofs.Posix.Simulation

/-!
# Each operation agrees with the model

From states that stand for each other the service and the model give the same answer,
and the states after it stand for each other again. There is one theorem for each
operation. It goes through the outcomes that the operation can have.
-/

namespace OpenFiles

theorem DescriptorTable.index?_eq_none_iff {table : DescriptorTable} {fd : Descriptor} :
    table.index? fd = none ↔ ¬ (0 ≤ fd.number ∧ fd.number < table.size) := by
  rw [index?]
  split
  · rename_i inside
    simp [inside]
  · rename_i outside
    simp [outside]

/-- Process tables of a size that was checked can be made. -/
theorem DescriptorTable.ofSize_ne_error {capacities : Capacities} {reason : Error}
    (checked : capacities.check = .ok ()) : ofSize capacities.processSlots ≠ .error reason := by
  obtain ⟨_, _, small⟩ := (Capacities.check_eq_ok_iff capacities).mp checked
  have granted : ¬ allocationLimit ≤ slotBytes * capacities.processSlots := by
    rw [descriptorLimit] at small
    rw [allocationLimit, slotBytes]
    omega
  rw [ofSize, if_neg granted]
  intro refused
  cases refused

namespace Posix

variable {κ α β : Type} {s : Service FileTree κ} {m : State FileTree κ}
variable {pid parent child : Pid} {fd old new : Descriptor} {number : GroupId → Nat}

/-- A result of the service and an answer of the model that say the same, with states
that stand for each other. -/
def Agrees (reply : α → Reply) (result : EStateM.Result Stop (Service FileTree κ) α)
    (outcome : Except Stop Reply × State FileTree κ) : Prop :=
  match result with
  | .ok value after => outcome.1 = .ok (reply value) ∧ Simulates after outcome.2
  | .error stop after => outcome.1 = .error stop ∧ Simulates after outcome.2

theorem agrees_createProcess {result : EStateM.Result Stop (Service FileTree κ) Unit}
    (creating : Service.Creating s pid result) (simulates : Simulates s m) :
    Agrees (fun _ => .done) result (m.createProcess pid) := by
  obtain ⟨number, mirrored⟩ := simulates.mirrored
  have present := mirrored.processes.contains_eq pid
  cases creating with
  | taken taken =>
      rw [OrderedMap.contains_iff.mpr taken] at present
      rw [State.createProcess, if_pos present]
      exact ⟨rfl, simulates⟩
  | huge large =>
      rw [simulates.ample] at large
      exact absurd large (DescriptorTable.ofSize_ne_error simulates.checked)
  | @created table journal fresh made =>
      rw [Bool.eq_false_iff.mpr (mt OrderedMap.contains_iff.mp fresh)] at present
      rw [State.createProcess, present]
      obtain ⟨_, room, _⟩ := (Capacities.check_eq_ok_iff s.capacities).mp simulates.checked
      refine ⟨rfl, Simulates.withJournal ?_ journal⟩
      refine simulates.frame mirrored (List.forall_mem_nil _) rfl
        (mirrored.processes.insert (.standard made room) pid) ?_
      intro ref member
      have kept := (referencesOf_insert_ofSize fresh made).mem_iff.mp member
      exact ⟨ref, kept, rfl, rfl⟩

theorem agrees_forkProcess {result : EStateM.Result Stop (Service FileTree κ) Unit}
    (forking : Service.Forking s parent child result) (simulates : Simulates s m) :
    Agrees (fun _ => .done) result (m.forkProcess parent child) := by
  obtain ⟨number, mirrored⟩ := simulates.mirrored
  have present := mirrored.processes.contains_eq child
  cases forking with
  | unknown missing =>
      rw [State.forkProcess, mirrored.processes.missing missing]
      exact ⟨rfl, simulates⟩
  | taken found taken =>
      obtain ⟨descriptors, here, _⟩ := mirrored.processes.found found
      rw [OrderedMap.contains_iff.mpr taken] at present
      simp only [State.forkProcess, here, present, if_true]
      exact ⟨rfl, simulates⟩
  | @forked table after journal found fresh arrivals =>
      obtain ⟨descriptors, here, mirrors⟩ := mirrored.processes.found found
      rw [Bool.eq_false_iff.mpr (mt OrderedMap.contains_iff.mp fresh)] at present
      simp only [State.forkProcess, here, present, Bool.false_eq_true, if_false]
      refine ⟨rfl, Simulates.withJournal ?_ journal⟩
      refine simulates.frame mirrored (List.forall_mem_nil _) arrivals.size
        (mirrored.processes.insert mirrors child) ?_
      intro ref member
      refine Exists.imp (fun ref' => And.imp_right fun same => ⟨same, arrivals.files ref.2⟩) ?_
      rcases List.mem_append.mp ((referencesOf_insert_fresh fresh table).mem_iff.mp member) with
        inherited | before
      · have slot := (DescriptorTable.mem_references_iff.mp inherited).2
        refine ⟨(⟨parent, ref.1.descriptor⟩, ref.2), mem_referencesOf_iff.mpr ?_, rfl⟩
        rw [found]
        exact slot
      · exact ⟨ref, before, rfl⟩

/-- What departures hand back was open. -/
theorem holds_of_departures {processes : OrderedMap Pid DescriptorTable} {leaving : List Reference}
    {gone : List Object} {after : Tables} {object : Object}
    (departures : Tables.Departures (s.withProcesses processes).tables leaving
      (referencesOf processes) gone after)
    (same : s.tables.references.Perm (leaving ++ referencesOf processes))
    (member : object ∈ gone) : s.Holds object := by
  obtain ⟨ref, left, file, shown, rfl⟩ := departures.held object member
  exact ⟨ref, same.mem_iff.mpr (List.mem_append_left _ left), file, shown, rfl⟩

/-- Handles leave, and what stands for the processes follows. -/
theorem Simulates.depart (simulates : Simulates s m)
    (mirrored : MirroredBy number s.capacities s.tables m.processes m.files)
    {processes : OrderedMap Pid DescriptorTable} {maps : OrderedMap Pid Descriptors}
    {leaving : List Reference} {gone : List Object} {after : Tables}
    (departures : Tables.Departures (s.withProcesses processes).tables leaving
      (referencesOf processes) gone after)
    (same : s.tables.references.Perm (leaving ++ referencesOf processes))
    (all : MirrorsAll number s.capacities.processSlots processes maps) :
    Simulates (s.relieved after gone) { m with processes := maps } := by
  have held : ∀ object ∈ gone, s.Holds object :=
    fun object member => holds_of_departures departures same member
  refine simulates.frame mirrored held departures.size ?_ ?_
  · rw [departures.processes]
    exact all
  · intro ref member
    rw [Tables.references, departures.processes] at member
    exact ⟨ref, same.mem_iff.mpr (List.mem_append_right _ member), rfl,
      departures.files ref member⟩

theorem agrees_endProcess {result : EStateM.Result Stop (Service FileTree κ) Unit}
    (ending : Service.Ending s pid result) (simulates : Simulates s m) :
    Agrees (fun _ => .done) result (m.endProcess pid) := by
  obtain ⟨number, mirrored⟩ := simulates.mirrored
  cases ending with
  | unknown missing =>
      rw [State.endProcess, mirrored.processes.missing missing]
      exact ⟨rfl, simulates⟩
  | ended found departures =>
      obtain ⟨descriptors, here, _⟩ := mirrored.processes.found found
      rw [State.endProcess, here]
      refine ⟨rfl, Simulates.withJournal ?_ _⟩
      exact simulates.depart mirrored departures (referencesOf_perm_erase found)
        (mirrored.processes.erase pid)

theorem agrees_close {result : EStateM.Result Stop (Service FileTree κ) Unit}
    (closing : Service.Closing s pid fd result) (simulates : Simulates s m) :
    Agrees (fun _ => .done) result (m.close pid fd) := by
  obtain ⟨number, mirrored⟩ := simulates.mirrored
  cases closing with
  | unknown missing =>
      rw [State.close, mirrored.processes.missing missing]
      exact ⟨rfl, simulates⟩
  | empty found vacant =>
      obtain ⟨descriptors, here, mirrors⟩ := mirrored.processes.found found
      simp only [State.close, here, mirrors.targets, vacant, Option.map_none]
      exact ⟨rfl, simulates⟩
  | closed found populated departures =>
      obtain ⟨descriptors, here, mirrors⟩ := mirrored.processes.found found
      have inRange := DescriptorTable.inRange_of_slot? populated
      simp only [State.close, here, mirrors.targets, populated, Option.map_some]
      refine ⟨rfl, Simulates.withJournal ?_ _⟩
      exact simulates.depart mirrored departures
        (referencesOf_perm_insert_assign_none found inRange)
        (mirrored.processes.insert (mirrors.erase inRange) pid)

/-- A duplicate in the model, once its arguments are in order. -/
theorem duplicate_eq {table : DescriptorTable} {descriptors : Descriptors} {slot : Slot}
    (capacities : m.capacities = s.capacities) (here : m.processes.get? pid = some descriptors)
    (mirrors : Mirrors number s.capacities.processSlots table descriptors)
    (populated : table.slot? old = some slot)
    (inRange : table.index? new = some new.number.toNat) :
    m.duplicate pid old new = (.ok (.descriptor new),
      m.withDescriptors pid (descriptors.insert new (.ofSlot number slot))) := by
  have inside : 0 ≤ new.number ∧ new.number < m.capacities.processSlots := by
    rw [capacities, ← mirrors.size]
    by_contra outside
    rw [DescriptorTable.index?_eq_none_iff.mpr outside] at inRange
    cases inRange
  simp only [State.duplicate, here, mirrors.targets, populated, Option.map_some]
  rw [if_pos inside]

theorem duplicate_invalid {table : DescriptorTable} {descriptors : Descriptors}
    (capacities : m.capacities = s.capacities) (here : m.processes.get? pid = some descriptors)
    (mirrors : Mirrors number s.capacities.processSlots table descriptors)
    (invalid : table.slot? old = none ∨ table.index? new = none) :
    m.duplicate pid old new = m.refuse .badDescriptor := by
  simp only [State.duplicate, here, mirrors.targets]
  cases slot : table.slot? old with
  | none => rfl
  | some contents =>
      rcases invalid with empty | outside
      · rw [slot] at empty
        cases empty
      · have outside := DescriptorTable.index?_eq_none_iff.mp outside
        rw [mirrors.size, ← capacities] at outside
        simp only [Option.map_some]
        rw [if_neg outside]

theorem agrees_duplicate {result : EStateM.Result Stop (Service FileTree κ) Descriptor}
    (duplicating : Service.Duplicating s pid old new result) (simulates : Simulates s m) :
    Agrees .descriptor result (m.duplicate pid old new) := by
  obtain ⟨number, mirrored⟩ := simulates.mirrored
  have all := mirrored.processes
  cases duplicating with
  | unknown missing =>
      rw [State.duplicate, all.missing missing]
      exact ⟨rfl, simulates⟩
  | @invalid table found invalid =>
      obtain ⟨descriptors, here, mirrors⟩ := all.found found
      rw [duplicate_invalid simulates.capacities here mirrors invalid]
      exact ⟨rfl, simulates⟩
  | @itself table slot found populated same =>
      obtain ⟨descriptors, here, mirrors⟩ := all.found found
      have target := mirrors.targets old
      subst same
      rw [populated, Option.map_some] at target
      rw [duplicate_eq simulates.capacities here mirrors populated
          (DescriptorTable.inRange_of_slot? populated),
        State.withDescriptors, OrderedMap.insert_of_get? target, OrderedMap.insert_of_get? here]
      exact ⟨rfl, simulates⟩
  | @stream table stream gone middle journal found slot apart inRange departures =>
      obtain ⟨descriptors, here, mirrors⟩ := all.found found
      rw [duplicate_eq simulates.capacities here mirrors slot inRange]
      refine ⟨rfl, Simulates.withJournal ?_ journal⟩
      have removed := referencesOf_perm_insert_assign_none found inRange
      have added := referencesOf_insert_assign_stream s.tables.processes pid inRange stream
      refine simulates.frame mirrored (fun object => holds_of_departures departures removed)
        departures.size (all.insert (mirrors.insert inRange _) pid) ?_
      intro ref member
      have remains := added.mem_iff.mp member
      exact ⟨ref, removed.mem_iff.mpr (List.mem_append_right _ remains), rfl,
        departures.files ref remains⟩
  | @shared table id gone middle after journal found slot apart inRange departures joining =>
      obtain ⟨descriptors, here, mirrors⟩ := all.found found
      rw [duplicate_eq simulates.capacities here mirrors slot inRange]
      refine ⟨rfl, Simulates.withJournal ?_ journal⟩
      have removed := referencesOf_perm_insert_assign_none found inRange
      have added := referencesOf_insert_assign_shared s.tables.processes pid inRange id
      refine simulates.frame mirrored (fun object => holds_of_departures departures removed)
        (joining.size.trans departures.size) (all.insert (mirrors.insert inRange _) pid) ?_
      intro ref member
      have remain : ∀ ref ∈ referencesOf (s.tables.processes.insert pid (table.assign new none)),
          ref ∈ s.tables.references ∧ after.file? ref.2 = s.tables.file? ref.2 :=
        fun ref remains => ⟨removed.mem_iff.mpr (List.mem_append_right _ remains),
          (joining.files ref.2).trans (departures.files ref remains)⟩
      rcases List.mem_cons.mp (added.mem_iff.mp member) with entered | remains
      · -- The new reference leads where the old descriptor leads, which is still there.
        have copied := remain (⟨pid, old⟩, id)
          (mem_referencesOf_insert_assign_none inRange (Ne.symm apart) slot)
        subst entered
        exact ⟨_, copied.1, rfl, copied.2⟩
      · exact ⟨ref, (remain ref remains).1, rfl, (remain ref remains).2⟩

end Posix

end OpenFiles
