import Mathlib
import OpenFiles.Console.MemoryConsole
import OpenFiles.Proofs.Service.Anchors
import OpenFiles.Proofs.Service.Appends
import OpenFiles.Proofs.Service.Confinement

/-!
# Independent processes

The operations on a descriptor of a process are confined to its `territory`: the cells that
its table leads to. Processes that have no file in common have disjoint territories, though
they share one system table, one arena and one tree. So it makes no difference which of them
goes first: `independent_requests_commute`.
-/

namespace OpenFiles

/-- The process whose descriptor a request is about. -/
def Request.actor? : Request → Option Pid
  | .close pid _ => some pid
  | .duplicate pid _ _ => some pid
  | .requireRights pid _ _ => some pid
  | .read pid _ _ => some pid
  | .write pid _ _ => some pid
  | .seek pid _ _ _ => some pid
  | .tell pid _ => some pid
  | _ => none

namespace Service

open OpenFiles.Action
open Cell (Contents Leads Within)

variable {κ : Type} {s t : Service FileTree κ} {pid other : Pid}

/-- The request is a transfer on a standard stream, which goes to the console. -/
def UsesConsole (s : Service FileTree κ) : Request → Prop
  | .read pid fd _ => ∃ stream, s.tables.slot? ⟨pid, fd⟩ = some (.stream stream)
  | .write pid fd _ => ∃ stream, s.tables.slot? ⟨pid, fd⟩ = some (.stream stream)
  | _ => False

section Requests

variable [ByteDevice κ] {region : Set Cell}

omit [ByteDevice κ] in
theorem slot?_of_run {fd : Descriptor} {slot : Slot} {later : Service FileTree κ}
    (ran : (Service.slot pid fd).run s = .ok slot later) :
    s.tables.slot? ⟨pid, fd⟩ = some slot := by
  obtain ⟨reason, _, run⟩ | ⟨contents, there, run⟩ := run_slot_cases s pid fd
  · cases run.symm.trans ran
  · cases run.symm.trans ran
    exact there

/-- An operation on a descriptor gives the same result in states that agree on a region of
the process, and changes the region only. -/
theorem twin_perform (request : Request) (actor : request.actor? = some pid)
    (here : Cell.process pid ∈ region) (quiet : ¬ s.UsesConsole request)
    (closed : Closed region s) (agree : Agree region s t) :
    Twin region (fun _ => True) s t ((perform request).run s) ((perform request).run t) := by
  have answered {α : Type} {action : Action (Service FileTree κ) α} (f : α → Reply)
      (twin : Twin region (fun _ => True) s t (action.run s) (action.run t)) :
      Twin region (fun _ => True) s t ((action >>= fun value => pure (f value)).run s)
        ((action >>= fun value => pure (f value)).run t) :=
    twin.bind fun value s' t' _ _ closed agree => .ok trivial (.refl closed agree)
  cases request with
  | close _ fd =>
      obtain rfl := Option.some.inj actor
      exact answered (fun _ => .done) (confined_close here fd s t closed agree)
  | duplicate _ old new =>
      obtain rfl := Option.some.inj actor
      exact answered .descriptor (confined_duplicate here old new s t closed agree)
  | requireRights _ fd asked =>
      obtain rfl := Option.some.inj actor
      exact answered (fun _ => .done) (confined_requireRights here asked s t closed agree)
  | read _ fd length =>
      obtain rfl := Option.some.inj actor
      refine answered .data ?_
      refine (confined_slot here fd s t closed agree).bind
        fun slot s' t' ran leads closed agree => ?_
      cases slot with
      | stream stream => exact absurd ⟨stream, slot?_of_run ran⟩ quiet
      | shared id => exact confined_readShared (leads id rfl) length s' t' closed agree
  | write _ fd data =>
      obtain rfl := Option.some.inj actor
      refine answered .number ?_
      refine (confined_slot here fd s t closed agree).bind
        fun slot s' t' ran leads closed agree => ?_
      cases slot with
      | stream stream => exact absurd ⟨stream, slot?_of_run ran⟩ quiet
      | shared id => exact confined_writeShared (leads id rfl) data s' t' closed agree
  | seek _ fd distance whence =>
      obtain rfl := Option.some.inj actor
      exact answered .number (confined_seek here distance whence s t closed agree)
  | tell _ fd =>
      obtain rfl := Option.some.inj actor
      exact answered .number (confined_tell here s t closed agree)
  | _ => cases actor

/-- The same in terms of answers and of the states after the request. -/
theorem outcome_of_agree (request : Request) (actor : request.actor? = some pid)
    (here : Cell.process pid ∈ region) (quiet : ¬ s.UsesConsole request)
    (closed : Closed region s) (agree : Agree region s t) :
    ((perform request).outcome t).1 = ((perform request).outcome s).1 ∧
      Parallel region s t (s.next request) (t.next request) := by
  have twin := twin_perform request actor here quiet closed agree
  rw [next_eq, next_eq, outcome_eq, outcome_eq]
  generalize (perform request).run s = first at twin
  generalize (perform request).run t = second at twin
  cases twin with
  | ok holds parallel => exact ⟨rfl, parallel⟩
  | error parallel => exact ⟨rfl, parallel⟩

end Requests

section Territories

/-- The table of a process leads to a cell. -/
inductive Reaches (s : Service FileTree κ) (pid : Pid) : Cell → Prop
  | own : Reaches s pid (.process pid)
  | next {cell next : Cell} (reaches : Reaches s pid cell) (leads : Leads (s.look cell) next) :
      Reaches s pid next

/-- What belongs to a process: its table, the groups and rows of its descriptors, and the
nodes of its open files. -/
def territory (s : Service FileTree κ) (pid : Pid) : Set Cell := {cell | s.Reaches pid cell}

theorem closed_territory (s : Service FileTree κ) (pid : Pid) : Closed (s.territory pid) s :=
  fun _ here _ leads => .next here leads

namespace Reaches

theorem process (reaches : s.Reaches pid (.process other)) : other = pid := by
  cases reaches with
  | own => rfl
  | @next cell _ before leads =>
      generalize s.look cell = contents at leads
      cases leads

theorem group {id : GroupId} (reaches : s.Reaches pid (.group id)) :
    ∃ fd, s.tables.slot? ⟨pid, fd⟩ = some (.shared id) := by
  cases reaches with
  | @next cell _ before leads =>
      generalize there : s.look cell = contents at leads
      cases leads with
      | @slot table fd _ slot =>
          cases cell with
          | process other =>
              obtain rfl := before.process
              exact ⟨fd, by rw [Tables.slot?, Contents.process.inj there]; exact slot⟩
          | _ => cases there

theorem row {row : RowId} (reaches : s.Reaches pid (.row row)) (balanced : s.tables.Balanced) :
    ∃ fd file, s.tables.target? ⟨pid, fd⟩ = some file ∧
      s.tables.system.object? row = some file.object := by
  cases reaches with
  | @next cell _ before leads =>
      generalize there : s.look cell = contents at leads
      cases leads with
      | row group free =>
          cases cell with
          | group id =>
              obtain ⟨fd, slot⟩ := before.group
              obtain ⟨file, shown⟩ := balanced.exists_file slot
              obtain ⟨group', live, held, _⟩ := Tables.file?_eq_some.mp shown
              obtain rfl := Option.some.inj (live.symm.trans (Contents.group.inj there).1)
              exact ⟨fd, file, Tables.target?_eq_some.mpr ⟨id, slot, shown⟩, held⟩
          | _ => cases there

theorem node {id : NodeId} (reaches : s.Reaches pid (.node id)) (balanced : s.tables.Balanced) :
    ∃ fd file, s.tables.target? ⟨pid, fd⟩ = some file ∧ file.object.node = id := by
  cases reaches with
  | @next cell _ before leads =>
      generalize there : s.look cell = contents at leads
      cases leads with
      | object holding =>
          cases cell with
          | row row =>
              obtain ⟨fd, file, target, held⟩ := before.row balanced
              rw [OpenTable.object?, Contents.row.inj there] at held
              exact ⟨fd, file, target, by rw [← Option.some.inj held]⟩
          | _ => cases there

end Reaches

/-- Two processes have no file in common: no inode number is open in both. Then no group has
members in both either. -/
structure Unrelated (s : Service FileTree κ) (pid other : Pid) : Prop where
  distinct : pid ≠ other
  apart : ∀ fd fd' file file', s.tables.target? ⟨pid, fd⟩ = some file →
    s.tables.target? ⟨other, fd'⟩ = some file' → file.object.inode ≠ file'.object.inode

variable [ByteDevice κ]

omit [ByteDevice κ] in
/-- Whether two processes are unrelated can be read off the references. -/
theorem unrelated_of_references (distinct : pid ≠ other)
    (apart : ∀ ref ∈ s.tables.references, ∀ ref' ∈ s.tables.references, ref.1.pid = pid →
      ref'.1.pid = other → s.tables.inode? ref.2 ≠ s.tables.inode? ref'.2) :
    s.Unrelated pid other where
  distinct := distinct
  apart fd fd' file file' target target' same := by
    obtain ⟨id, slot, shown⟩ := Tables.target?_eq_some.mp target
    obtain ⟨id', slot', shown'⟩ := Tables.target?_eq_some.mp target'
    refine apart _ (Tables.mem_references_iff.mpr slot) _ (Tables.mem_references_iff.mpr slot')
      rfl rfl ?_
    simp only [Tables.inode?, shown, shown', Option.map_some, same]

theorem Unrelated.disjoint (unrelated : s.Unrelated pid other)
    (reached : Reachable FileTree.Administered s) :
    Disjoint (s.territory pid) (s.territory other) := by
  have balanced := reached.balanced
  refine Set.disjoint_left.mpr fun cell first second => ?_
  cases cell with
  | process common => exact unrelated.distinct (first.process.symm.trans second.process)
  | group id =>
      obtain ⟨fd, slot⟩ := first.group
      obtain ⟨fd', slot'⟩ := second.group
      obtain ⟨file, shown⟩ := balanced.exists_file slot
      exact unrelated.apart fd fd' file file (Tables.target?_eq_some.mpr ⟨id, slot, shown⟩)
        (Tables.target?_eq_some.mpr ⟨id, slot', shown⟩) rfl
  | row row =>
      obtain ⟨fd, file, target, held⟩ := first.row balanced
      obtain ⟨fd', file', target', held'⟩ := second.row balanced
      refine unrelated.apart fd fd' file file' target target' ?_
      rw [Option.some.inj (held.symm.trans held')]
  | node id =>
      obtain ⟨fd, file, target, here⟩ := first.node balanced
      obtain ⟨fd', file', target', there⟩ := second.node balanced
      obtain ⟨id, _, shown⟩ := Tables.target?_eq_some.mp target
      obtain ⟨id', _, shown'⟩ := Tables.target?_eq_some.mp target'
      obtain ⟨node, found, number, _⟩ := reached.names_of_file? shown
      obtain ⟨node', found', number', _⟩ := reached.names_of_file? shown'
      rw [here] at found
      rw [there, found, Option.some.injEq] at found'
      refine unrelated.apart fd fd' file file' target target' ?_
      rw [← number, ← number', found']

end Territories

/-- Two changes in disjoint regions, each of which is made alike before and after the other,
lead to the same state in either order. -/
theorem agree_of_disjoint {region other : Set Cell} {s first second both both' : Service FileTree κ}
    (disjoint : Disjoint region other) (one : Parallel region s second first both')
    (two : Parallel other s first second both) : Agree Set.univ both both' := by
  have here : region ⊆ otherᶜ := Set.subset_compl_iff_disjoint_right.mpr disjoint
  have there : other ⊆ regionᶜ := Set.subset_compl_iff_disjoint_left.mpr disjoint
  -- On each region the change that belongs there is seen, and elsewhere none.
  have inRegion : Agree region both both' := (two.right.mono here).symm.trans one.agree
  have inOther : Agree other both both' := two.agree.symm.trans (one.right.mono there)
  have inNeither : Agree (region ∪ other)ᶜ both both' := by
    have fromFirst : Agree (region ∪ other)ᶜ s both := by
      refine (one.left.mono ?_).trans (two.right.mono ?_)
      · exact Set.compl_subset_compl.mpr Set.subset_union_left
      · exact Set.compl_subset_compl.mpr Set.subset_union_right
    have fromSecond : Agree (region ∪ other)ᶜ s both' := by
      refine (two.left.mono ?_).trans (one.right.mono ?_)
      · exact Set.compl_subset_compl.mpr Set.subset_union_right
      · exact Set.compl_subset_compl.mpr Set.subset_union_left
    exact fromFirst.symm.trans fromSecond
  have everywhere := (inRegion.union inOther).union inNeither
  rwa [Set.union_compl_self] at everywhere

variable [ByteDevice κ] {first second : Request}

/-- Independent processes commute. Let two processes have no file in common, and let each
make a request about a descriptor of its own that is no transfer on a standard stream. In
whichever order the two are made, each has the answer that it would have alone, and the
state at the end is the same, but for the order of what the journal says. -/
theorem independent_requests_commute (reached : Reachable FileTree.Administered s)
    (unrelated : s.Unrelated pid other) (actor : first.actor? = some pid)
    (actor' : second.actor? = some other)
    (quiet : ¬ s.UsesConsole first) (quiet' : ¬ s.UsesConsole second) :
    ((perform first).outcome (s.next second)).1 = ((perform first).outcome s).1 ∧
      ((perform second).outcome (s.next first)).1 = ((perform second).outcome s).1 ∧
      ∀ journal, ((s.next first).next second).withJournal journal =
        ((s.next second).next first).withJournal journal := by
  have disjoint := unrelated.disjoint reached
  have closed := closed_territory s pid
  have closed' := closed_territory s other
  -- Neither request touches the territory of the other process.
  have alone := (outcome_of_agree first actor .own quiet closed (.refl _ s)).2
  have alone' := (outcome_of_agree second actor' .own quiet' closed' (.refl _ s)).2
  have kept : Agree (s.territory pid) s (s.next second) :=
    alone'.left.mono (Set.subset_compl_iff_disjoint_right.mpr disjoint)
  have kept' : Agree (s.territory other) s (s.next first) :=
    alone.left.mono (Set.subset_compl_iff_disjoint_left.mpr disjoint)
  obtain ⟨answer, one⟩ := outcome_of_agree first actor .own quiet closed kept
  obtain ⟨answer', two⟩ := outcome_of_agree second actor' .own quiet' closed' kept'
  refine ⟨answer, answer', fun journal => ?_⟩
  have same := eq_of_agree (agree_of_disjoint disjoint one two)
  exact congrArg (fun state => state.withJournal journal) same

/-- Each of two processes closes the only descriptor it has on a file of its own. Two groups
are dissolved, two rows are free, and two nodes released, in either order. -/
theorem independent_closes_commute :
    ∃ start s : Service FileTree MemoryConsole,
      build ⟨4, 6⟩ ([.createFile "/a" [1], .createFile "/b" [2]].foldl FileTree.after
        FileTree.initial) (.ofCapacity 4) = .ok start ∧
      s = start.after [.createProcess ⟨1⟩, .createProcess ⟨2⟩, .openPath ⟨1⟩ "/a" (.ofBits 2) 0,
        .openPath ⟨2⟩ "/b" (.ofBits 2) 0] ∧
      ∀ journal, ((s.next (.close ⟨1⟩ ⟨3⟩)).next (.close ⟨2⟩ ⟨3⟩)).withJournal journal =
        ((s.next (.close ⟨2⟩ ⟨3⟩)).next (.close ⟨1⟩ ⟨3⟩)).withJournal journal := by
  have built : build ⟨4, 6⟩ ([.createFile "/a" [1], .createFile "/b" [2]].foldl FileTree.after
    FileTree.initial) (MemoryConsole.ofCapacity 4) = .ok _ := rfl
  have reached : Reachable FileTree.Administered _ := (Reachable.built built).after
    [.createProcess ⟨1⟩, .createProcess ⟨2⟩, .openPath ⟨1⟩ "/a" (.ofBits 2) 0,
      .openPath ⟨2⟩ "/b" (.ofBits 2) 0]
  obtain ⟨_, _, same⟩ := independent_requests_commute reached
    (unrelated_of_references (by decide) (by decide +kernel))
    (rfl : (Request.close ⟨1⟩ ⟨3⟩).actor? = _) (rfl : (Request.close ⟨2⟩ ⟨3⟩).actor? = _) id id
  exact ⟨_, _, built, rfl, same⟩

end Service

end OpenFiles
