import OpenFiles.Proofs.Posix.Steps

/-!
# Opening agrees with the model

A new file is the one place where the service and the model keep different things. In
the model it gets a number of its own and the object of its open. The group of the
service may take the place of a dissolved one, and its row may be one that other
groups use and that holds the object of an earlier open. If inode numbers tell nodes
apart, that is the same object.
-/

namespace OpenFiles

namespace Posix

variable {κ α : Type} {s : Service FileTree κ} {m : State FileTree κ}
variable {pid : Pid} {fd : Descriptor} {number : GroupId → Nat} {object : Object}
variable {path : String} {flags : OpenFlags} {permission : UInt32} {store : FileTree}

/-- The flag word of an open and its flags ask for the same rights. -/
theorem rightsOf_eq (flags : OpenFlags) :
    rightsOf flags.bits = (Rights.ofOpenFlags flags).toOption := by
  obtain ⟨access, create, exclusive, truncate, append, noTerminal⟩ := flags
  revert access
  cases create <;> cases exclusive <;> cases truncate <;> cases append <;> cases noTerminal <;>
    decide

theorem rightsOf_eq_some {rights : Rights} (asked : Rights.ofOpenFlags flags = .ok rights) :
    rightsOf flags.bits = some rights := by
  rw [rightsOf_eq, asked]
  rfl

theorem rightsOf_eq_none {reason : Error} (refused : Rights.ofOpenFlags flags = .error reason) :
    rightsOf flags.bits = none := by
  rw [rightsOf_eq, refused]
  rfl

/-- An open has the same answer from both storages. -/
theorem Simulates.openPath (simulates : Simulates s m)
    (answer : Storage.openPath path flags permission s.storage = (.ok object, store)) :
    ∃ mine, Storage.openPath path flags permission m.storage = (.ok object, mine) ∧
      Simulates (s.withStorage store) { m with storage := mine } ∧ store.Present object.node := by
  change FileTree.openObject path flags permission s.storage = (.ok object, store) at answer
  obtain ⟨same, alike⟩ := simulates.storage.openObject path flags permission
  obtain ⟨linked, there, present⟩ :=
    FileTree.linked_openPath simulates.linked (FileTree.openPath_of_openObject answer)
  rw [answer] at same alike
  exact ⟨(FileTree.openObject path flags permission m.storage).2, Prod.ext same rfl,
    simulates.withStorage alike linked present, there⟩

theorem Simulates.openPath_refused (simulates : Simulates s m) {reason : Error}
    (answer : Storage.openPath path flags permission s.storage = (.error reason, store)) :
    ∃ mine, Storage.openPath path flags permission m.storage = (.error reason, mine) ∧
      Simulates (s.withStorage store) { m with storage := mine } := by
  change FileTree.openObject path flags permission s.storage = (.error reason, store) at answer
  obtain ⟨same, alike⟩ := simulates.storage.openObject path flags permission
  have unchanged := FileTree.eq_of_openObject answer
  rw [answer] at same alike
  subst unchanged
  exact ⟨(FileTree.openObject path flags permission m.storage).2, Prod.ext same rfl,
    simulates.withStorage alike simulates.linked fun _ present => present⟩

/-- An object that found no place is released, which the model does not notice. -/
theorem Simulates.discard (simulates : Simulates s m) (present : s.storage.Present object.node) :
    Simulates (s.withStorage (Storage.release object s.storage)) m := by
  have spares : s.storage.Spares (s.storage.release object) := FileTree.spares_release object
  have alike : m.storage.Alike (s.storage.release object) :=
    simulates.storage.trans (FileTree.unreleased_release present).symm
  exact simulates.withStorage alike (spares.linked simulates.linked) spares.present

/-- The descriptor and the file of an open that found room. -/
theorem Simulates.enter (simulates : Simulates s m) (balanced : s.tables.Balanced)
    (present : s.storage.Present object.node) {table : DescriptorTable}
    {descriptors : Descriptors} {cursor : Nat} {rights : Rights} {id : GroupId} {after : Tables}
    (mirrored : MirroredBy number s.capacities s.tables m.processes m.files)
    (found : s.tables.processes.get? pid = some table)
    (here : m.processes.get? pid = some descriptors) (free : table.freeDescriptor = .ok fd)
    (entering : Tables.Entering s.tables object cursor rights ⟨pid, fd⟩ s.tables.references id
      after)
    (shown : after.file? id = some ⟨object, cursor, rights⟩) :
    Simulates ((s.withTables after).withProcesses
        (s.tables.processes.insert pid (table.assign fd (some (.shared id)))))
      (State.withDescriptors
        ({ m with files := m.files ++ [⟨object, cursor, rights⟩] } : State FileTree κ)
        pid (descriptors.insert fd (.file m.files.length))) := by
  refine ⟨simulates.checked, simulates.ample, simulates.capacities, simulates.console,
    simulates.storage, simulates.linked, ?_, _,
    mirrored.enter balanced found here free entering shown⟩
  intro other held
  obtain ⟨inRange, empty⟩ := DescriptorTable.freeDescriptor_ok free
  obtain ⟨ref, member, file, there, rfl⟩ := held
  change after.file? ref.2 = some file at there
  have added := referencesOf_insert_assign_some found inRange empty id
  rcases List.mem_cons.mp (added.mem_iff.mp member) with rfl | before
  · rw [shown, Option.some.injEq] at there
    subst there
    exact present
  · rw [entering.files ref before] at there
    exact simulates.present file.object ⟨ref, before, file, there, rfl⟩

section Install

variable {table : DescriptorTable} {descriptors : Descriptors} {rights : Rights} {journal : Journal}

theorem agrees_install_systemFull (simulates : Simulates s m) (balanced : s.tables.Balanced)
    (present : s.storage.Present object.node) (full : s.tables.system.Full object) :
    Agrees .descriptor (.error (.refused .tooManyOpenInSystem)
        ((s.withStorage (Storage.release object s.storage)).withJournal journal))
      (m.install pid descriptors object rights) := by
  obtain ⟨number, mirrored⟩ := simulates.mirrored
  have many := (mirrored.full_iff balanced).mp full
  rw [← simulates.capacities] at many
  rw [State.install, if_pos many]
  exact ⟨rfl, (simulates.discard present).withJournal journal⟩

theorem agrees_install_processFull (simulates : Simulates s m) (balanced : s.tables.Balanced)
    (present : s.storage.Present object.node) (found : s.tables.processes.get? pid = some table)
    (here : m.processes.get? pid = some descriptors) (room : ¬ s.tables.system.Full object)
    (full : table.freeDescriptor = .error .tooManyOpen) {left : FileTree}
    (released : left = if s.tables.Refers s.tables.references object.inode then s.storage
      else Storage.release object s.storage) :
    Agrees .descriptor
      (.error (.refused .tooManyOpen) ((s.withStorage left).withJournal journal))
      (m.install pid descriptors object rights) := by
  obtain ⟨number, mirrored⟩ := simulates.mirrored
  have few := mt (mirrored.full_iff balanced).mpr room
  have lowest := (mirrored.processes.mirrors found here).freeDescriptor_eq
  rw [full] at lowest
  rw [← simulates.capacities] at few lowest
  rw [State.install, if_neg few]
  cases free : lowestFree descriptors m.capacities.processSlots with
  | some fd =>
      rw [free] at lowest
      cases lowest
  | none =>
      refine ⟨rfl, Simulates.withJournal ?_ journal⟩
      rw [released]
      split
      · exact simulates
      · exact simulates.discard present

theorem agrees_install_opened (simulates : Simulates s m) (balanced : s.tables.Balanced)
    (present : s.storage.Present object.node) (found : s.tables.processes.get? pid = some table)
    (here : m.processes.get? pid = some descriptors) (room : ¬ s.tables.system.Full object)
    (free : table.freeDescriptor = .ok fd) {cursor : Nat} {id : GroupId} {after : Tables}
    (start : cursor = if rights.append then Storage.sizeOf object s.storage else 0)
    (entering : Tables.Entering s.tables object cursor rights ⟨pid, fd⟩ s.tables.references id
      after)
    (shown : after.file? id = some ⟨object, cursor, rights⟩) :
    Agrees .descriptor (.ok fd (((s.withTables after).withProcesses (s.tables.processes.insert pid
        (table.assign fd (some (.shared id))))).withJournal journal))
      (m.install pid descriptors object rights) := by
  obtain ⟨number, mirrored⟩ := simulates.mirrored
  have few := mt (mirrored.full_iff balanced).mpr room
  have lowest := (mirrored.processes.mirrors found here).freeDescriptor_eq
  rw [free] at lowest
  rw [← simulates.capacities] at few lowest
  have size : Storage.sizeOf object m.storage = Storage.sizeOf object s.storage :=
    simulates.storage.sizeOf object
  rw [State.install, if_neg few]
  cases first : lowestFree descriptors m.capacities.processSlots with
  | none =>
      rw [first] at lowest
      cases lowest
  | some fd' =>
      rw [first] at lowest
      cases lowest
      simp only [size, ← start]
      exact ⟨rfl, (simulates.enter balanced present mirrored found here free entering
        shown).withJournal journal⟩

end Install

theorem agrees_openPath {result : EStateM.Result Stop (Service FileTree κ) Descriptor}
    (balanced : s.tables.Balanced) (anchored : s.Anchored)
    (opening : Service.Opening s pid path flags permission result)
    (apart : (Action.stateOf result).storage.Identifies) (simulates : Simulates s m) :
    Agrees .descriptor result (m.openPath pid path flags permission) := by
  obtain ⟨number, mirrored⟩ := simulates.mirrored
  have all := mirrored.processes
  cases opening with
  | direction none =>
      rw [State.openPath, rightsOf_eq_none none]
      exact ⟨rfl, simulates⟩
  | unknown asked missing =>
      rw [State.openPath, rightsOf_eq_some asked]
      simp only [all.missing missing]
      exact ⟨rfl, simulates⟩
  | storage asked found answer =>
      obtain ⟨descriptors, here, mirrors⟩ := all.found found
      obtain ⟨mine, opened, after⟩ := simulates.openPath_refused answer
      rw [State.openPath, rightsOf_eq_some asked]
      simp only [here, opened]
      exact ⟨rfl, after.withJournal _⟩
  | systemFull asked found answer full =>
      obtain ⟨descriptors, here, mirrors⟩ := all.found found
      obtain ⟨mine, opened, after, present⟩ := simulates.openPath answer
      rw [State.openPath, rightsOf_eq_some asked]
      simp only [here, opened]
      exact agrees_install_systemFull after balanced present full
  | unbound asked found answer room unbindable released =>
      obtain ⟨descriptors, here, mirrors⟩ := all.found found
      obtain ⟨mine, opened, after, present⟩ := simulates.openPath answer
      rw [State.openPath, rightsOf_eq_some asked]
      simp only [here, opened]
      cases unbindable with
      | slots full =>
          exact agrees_install_processFull after balanced present found here room full released
      | memory free exhausted =>
          rw [simulates.ample, GroupArena.exhausted_unbounded] at exhausted
          cases exhausted
  | @opened rights table object store fd id after journal asked found answer room free granted
      entering =>
      obtain ⟨descriptors, here, mirrors⟩ := all.found found
      obtain ⟨mine, opened, simulatesAfter, present⟩ := simulates.openPath answer
      obtain ⟨held, shown, inode, origin⟩ := entering.shown
      -- A row that was in use holds the object of an earlier open, which is the same object.
      have same : held = object := by
        rcases origin with ⟨_, same⟩ | before
        · exact same
        · obtain ⟨kept, named⟩ := FileTree.keeps_openPath (FileTree.openPath_of_openObject answer)
          exact apart.eq_of_names (kept.grown.names (anchored held before)) named inode
      subst same
      rw [State.openPath, rightsOf_eq_some asked]
      simp only [here, opened]
      exact agrees_install_opened simulatesAfter balanced present found here room free rfl entering
        shown

end Posix

end OpenFiles
