import OpenFiles.Console.MemoryConsole
import OpenFiles.FileTree.Storage
import OpenFiles.Proofs.Service.Runs

/-!
# Consistency of slots, groups and rows

`Consistent` says what the three kinds of table have to do with each other, look-up
by look-up and count by count. `consistent_of_reachable` is the main result: it holds
at all times, and so none of the assertions between the tables can fail. The one
assertion left is that of a cursor that would be no word.
-/

namespace OpenFiles

namespace Tables

/-- Slots, groups and rows agree. -/
structure Consistent (tables : Tables) : Prop where
  /-- A live group has members. -/
  inhabited : ∀ id group, tables.groups.group? id = some group → ∃ handle, handle ∈ group.members
  /-- They are the handles whose slots refer to it. -/
  enrolled : ∀ id group, tables.groups.group? id = some group → ∀ handle,
    handle ∈ group.members ↔ tables.slot? handle = some (.shared id)
  /-- A slot refers to live groups only. -/
  live : ∀ handle id, tables.slot? handle = some (.shared id) →
    ∃ group, tables.groups.group? id = some group
  /-- The row of a live group is in use. -/
  inUse : ∀ id group, tables.groups.group? id = some group →
    ∃ holding, tables.system.holding? group.row = some holding
  /-- A row counts the slots whose groups lead to it. -/
  counted : ∀ row, tables.system.handles row =
    tables.references.countP fun ref => tables.row? ref.2 = some row
  /-- The count is zero exactly for a free row. -/
  free : ∀ row, tables.system.handles row = 0 ↔ tables.system.holding? row = none
  /-- No two rows hold objects with one inode number. -/
  distinct : ∀ row row' holding holding', tables.system.holding? row = some holding →
    tables.system.holding? row' = some holding' →
      holding.object.inode = holding'.object.inode → row = row'

variable {tables : Tables}

/-- The list that counts are taken over has each populated slot once. -/
theorem nodup_references (tables : Tables) : tables.references.Nodup :=
  nodup_referencesOf tables.processes

theorem Balanced.consistent (balanced : tables.Balanced) : tables.Consistent where
  inhabited id group live := OrderedMap.exists_mem_of_ne_empty (balanced.populated id group live)
  enrolled id group live handle := by
    rw [← mem_references_iff, balanced.enrolled handle id]
    simp only [live, Option.some.injEq, exists_eq_left']
  live handle id slot := by
    obtain ⟨group, live, _⟩ := balanced.live (mem_references_iff.mpr slot)
    exact ⟨group, live⟩
  inUse id group live := balanced.exists_holding live
  counted := balanced.counted
  free row := balanced.positive.handles_eq_zero_iff
  distinct := balanced.separate

end Tables

namespace Service

variable {σ κ : Type} [Storage σ] [ByteDevice κ] {outside : σ → σ → Prop} {s : Service σ κ}

/-- The tables agree at all times, and no request can fail an assertion about them. -/
theorem consistent_of_reachable (reached : Reachable outside s) :
    s.tables.Consistent ∧ ∀ request fault,
      ((perform request).outcome s).1 = .error (.faulted fault) → fault = .wordOverflow :=
  ⟨reached.balanced.consistent, fun _ _ faulted => fault_eq_wordOverflow reached.balanced faulted⟩

/-- Two processes share a device, one of them by two descriptors; then it ends. -/
theorem consistent_after_fork :
    ∃ start : Service FileTree MemoryConsole,
      build {} FileTree.initial (.ofCapacity 4) = .ok start ∧
      (start.after [.createProcess ⟨1⟩, .openPath ⟨1⟩ "/dev/null" (.ofBits 2) 0,
        .duplicate ⟨1⟩ ⟨3⟩ ⟨0⟩, .forkProcess ⟨1⟩ ⟨2⟩, .endProcess ⟨1⟩]).tables.Consistent := by
  have built : build {} FileTree.initial (MemoryConsole.ofCapacity 4) = .ok _ := rfl
  have reached : Reachable (fun _ _ => False) _ := Reachable.built built
  exact ⟨_, built, (consistent_of_reachable (reached.after _)).1⟩

end Service

end OpenFiles
