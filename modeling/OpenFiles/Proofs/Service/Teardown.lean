import OpenFiles.Console.MemoryConsole
import OpenFiles.Proofs.FileTree.Releases
import OpenFiles.Proofs.Service.Cells
import OpenFiles.Proofs.Service.Runs

/-!
# Closing before ending

The end of a process gives back whatever the process still refers to, in the order of its
table. A process may as well close its descriptors itself before it ends, all or some of them,
in whatever order. Nothing of that is seen afterwards but in the journal: what departures leave
behind depends only on the references that are left, and releases commute.

One close before the end makes no difference. That is the step; any number of closes follow by
induction over their list.
-/

namespace OpenFiles

namespace Service

open OpenFiles.Action

variable {κ : Type} [ByteDevice κ]

/-- Descriptors of a process are closed one after the other, and every close is granted. -/
inductive Closes (pid : Pid) : Service FileTree κ → List Descriptor → Service FileTree κ → Prop
  | nil (s : Service FileTree κ) : Closes pid s [] s
  | cons {s middle later : Service FileTree κ} {fd : Descriptor} {rest : List Descriptor}
      (closed : (perform (.close pid fd)).outcome s = (.ok .done, middle))
      (others : Closes pid middle rest later) : Closes pid s (fd :: rest) later

variable {s : Service FileTree κ} {pid : Pid} {fd : Descriptor} {table : DescriptorTable}
variable {order : List Descriptor}

omit [ByteDevice κ] in
/-- What is left does not depend on how it came to be left. -/
theorem agree_of_departures {tables after after' : Tables} {leaving leaving' rest : List Reference}
    {gone gone' : List Object} (s : Service FileTree κ)
    (first : tables.Departures leaving rest gone after)
    (second : tables.Departures leaving' rest gone' after') (same : leaving.Perm leaving')
    (separate : tables.system.Separate) :
    Agree Set.univ (s.relieved after gone) (s.relieved after' gone') := by
  have storage := FileTree.releaseAll_perm (first.perm_gone separate second same) s.storage
  rw [relieved, relieved, first.eq_tables second, storage]
  exact .refl _ _

omit [ByteDevice κ] in
/-- A close and the end of the process after it are together the departures of all that the
process refers to. Both start from the tables without the process, because nothing that leaves
asks for its table. -/
theorem departures_of_close_endProcess {middle after : Tables} {gone lost : List Object}
    (first : Tables.Departures
      (s.withProcesses (s.tables.processes.insert pid (table.assign fd none))).tables
      (table.referencesAt pid fd)
      (referencesOf (s.tables.processes.insert pid (table.assign fd none))) gone middle)
    (second : Tables.Departures { middle with processes := middle.processes.erase pid }
      ((table.assign fd none).references pid) (referencesOf (middle.processes.erase pid))
      lost after) :
    Tables.Departures (s.withProcesses (s.tables.processes.erase pid)).tables
      (table.referencesAt pid fd ++ (table.assign fd none).references pid)
      (referencesOf (s.tables.processes.erase pid)) (gone ++ lost) after := by
  have erased : middle.processes.erase pid = s.tables.processes.erase pid := by
    rw [first.processes]
    exact OrderedMap.erase_insert_self _ _ _
  have others := referencesOf_insert_perm s.tables.processes pid (table.assign fd none)
  rw [erased] at second
  exact ((first.of_processes (s.tables.processes.erase pid)).perm others).append second

/-- A close that comes before the end of the process is granted, and makes no difference
afterwards. -/
theorem endProcess_after_close {slot : Slot} (balanced : s.tables.Balanced)
    (found : s.tables.processes.get? pid = some table) (populated : table.slot? fd = some slot) :
    (perform (.close pid fd)).outcome s = (.ok .done, s.next (.close pid fd)) ∧
      (s.next (.close pid fd)).tables.processes.get? pid = some (table.assign fd none) ∧
      Agree Set.univ ((s.next (.close pid fd)).next (.endProcess pid))
        (s.next (.endProcess pid)) := by
  have inRange := DescriptorTable.inRange_of_slot? populated
  have balanced' := balanced_next balanced (.close pid fd)
  obtain ⟨gone, middle, journal, run, departures⟩ := run_close_of_slot? balanced found populated
  have closed := outcome_close run
  have next : s.next (.close pid fd) = (s.relieved middle gone).withJournal journal := by
    rw [Service.next, closed]
  rw [next] at balanced' ⊢
  have emptied : middle.processes.get? pid = some (table.assign fd none) := by
    rw [departures.processes]
    exact OrderedMap.get?_insert_self _ _ _
  refine ⟨closed, emptied, ?_⟩
  obtain ⟨lost, after, _, ended, others⟩ := run_endProcess_of_get? balanced' emptied
  obtain ⟨gone', after', _, ended', all⟩ := run_endProcess_of_get? balanced found
  have agree := agree_of_departures s (departures_of_close_endProcess departures others) all
    (DescriptorTable.references_perm_assign_none pid inRange).symm balanced.separate
  rw [← relieved_relieved s middle after gone lost] at agree
  rw [Service.next, Service.next, outcome_endProcess ended, outcome_endProcess ended']
  exact agree.withJournal _ _

/-- Any populated descriptors can be closed before the process ends. -/
theorem endProcess_after_closes (balanced : s.tables.Balanced)
    (found : s.tables.processes.get? pid = some table) (distinct : order.Nodup)
    (populated : ∀ fd ∈ order, ∃ slot, table.slot? fd = some slot) :
    ∃ closed, s.Closes pid order closed ∧ closed.tables.Balanced ∧
      (∃ left, closed.tables.processes.get? pid = some left) ∧
      Agree Set.univ (closed.next (.endProcess pid)) (s.next (.endProcess pid)) := by
  induction order generalizing s table with
  | nil => exact ⟨s, .nil s, balanced, ⟨table, found⟩, .refl _ _⟩
  | cons fd order ih =>
      obtain ⟨fresh, distinct'⟩ := List.nodup_cons.mp distinct
      obtain ⟨slot, here⟩ := populated fd List.mem_cons_self
      obtain ⟨granted, emptied, agree⟩ := endProcess_after_close balanced found here
      have others : ∀ fd' ∈ order, ∃ slot, (table.assign fd none).slot? fd' = some slot := by
        intro fd' member
        have apart : fd ≠ fd' := fun same => fresh (same ▸ member)
        rw [DescriptorTable.slot?_assign_of_ne (DescriptorTable.inRange_of_slot? here) none apart]
        exact populated fd' (List.mem_cons_of_mem _ member)
      obtain ⟨closed, closes, balanced', left, agree'⟩ :=
        ih (balanced_next balanced (.close pid fd)) emptied distinct' others
      exact ⟨closed, .cons granted closes, balanced', left, agree'.trans agree⟩

/-- To end a process is to close everything and then to end it, in whatever order its
descriptors are closed. Every close is granted. The state in the end is the same, with its
tables, arena, processes and file tree, and only what was printed is not. -/
theorem endProcess_of_closing_all {outside : FileTree → FileTree → Prop}
    (reached : Reachable outside s) (found : s.tables.processes.get? pid = some table)
    (all : order.Perm (table.populated.map Prod.fst)) :
    ∃ closed ended direct, s.Closes pid order closed ∧
      (perform (.endProcess pid)).outcome closed = (.ok .done, ended) ∧
      (perform (.endProcess pid)).outcome s = (.ok .done, direct) ∧
      ended.withJournal direct.journal = direct := by
  have balanced := reached.balanced
  have distinct : order.Nodup := all.nodup_iff.mpr table.nodup_descriptors
  have populated : ∀ fd ∈ order, ∃ slot, table.slot? fd = some slot := by
    intro fd member
    obtain ⟨⟨fd, slot⟩, listed, rfl⟩ := List.mem_map.mp (all.mem_iff.mp member)
    exact ⟨slot, DescriptorTable.mem_populated_iff.mp listed⟩
  obtain ⟨closed, closes, balanced', ⟨left, remains⟩, agree⟩ :=
    endProcess_after_closes balanced found distinct populated
  obtain ⟨_, _, _, ended, _⟩ := run_endProcess_of_get? balanced' remains
  obtain ⟨_, _, _, direct, _⟩ := run_endProcess_of_get? balanced found
  have ended := outcome_endProcess ended
  have direct := outcome_endProcess direct
  rw [Service.next, Service.next, ended, direct] at agree
  exact ⟨closed, _, _, closes, ended, direct, eq_of_agree agree⟩

/-- One device is open twice, in one of the two cases by two descriptors. -/
theorem endProcess_of_closing_shared :
    ∃ start : Service FileTree MemoryConsole,
      build ⟨4, 6⟩ FileTree.initial (.ofCapacity 4) = .ok start ∧
      ∃ closed ended direct,
        (start.after [.createProcess ⟨1⟩, .openPath ⟨1⟩ "/dev/null" (.ofBits 2) 0,
          .openPath ⟨1⟩ "/dev/null" (.ofBits 0) 0, .duplicate ⟨1⟩ ⟨3⟩ ⟨0⟩]).Closes ⟨1⟩
            [⟨4⟩, ⟨0⟩, ⟨2⟩, ⟨3⟩, ⟨1⟩] closed ∧
        (perform (.endProcess ⟨1⟩)).outcome closed = (.ok .done, ended) ∧
        (perform (.endProcess ⟨1⟩)).outcome
          (start.after [.createProcess ⟨1⟩, .openPath ⟨1⟩ "/dev/null" (.ofBits 2) 0,
            .openPath ⟨1⟩ "/dev/null" (.ofBits 0) 0, .duplicate ⟨1⟩ ⟨3⟩ ⟨0⟩]) =
          (.ok .done, direct) ∧
        ended.withJournal direct.journal = direct := by
  have built : build ⟨4, 6⟩ FileTree.initial (MemoryConsole.ofCapacity 4) = .ok _ := rfl
  have reached : Reachable Eq _ := Reachable.built built
  have before := reached.after [.createProcess ⟨1⟩, .openPath ⟨1⟩ "/dev/null" (.ofBits 2) 0,
    .openPath ⟨1⟩ "/dev/null" (.ofBits 0) 0, .duplicate ⟨1⟩ ⟨3⟩ ⟨0⟩]
  exact ⟨_, built, endProcess_of_closing_all before rfl (by decide)⟩

end Service

end OpenFiles
