import Mathlib.Data.Set.Function
import OpenFiles.FileTree.Storage
import OpenFiles.OrderedMap.Lemmas
import OpenFiles.Proofs.Tables.Departures
import OpenFiles.Service.Basic

/-!
# The state in cells

The state of a service over a file tree comes apart into cells: a table for each process, a
slot of the arena for each group, a row of the system table for each open object, and a row
of the tree for each node. Cells lead to one another, from a process to its groups, from a
group to its row, and from the row to the node of its object. What is in no cell is the
`frame`, which no operation on a descriptor changes.

Two states agree on a region if its cells have the same contents and the frames are the same.
States that agree everywhere are equal but for their journals: `eq_of_agree`. Every single
step writes one cell.
-/

namespace OpenFiles

/-- A place in the state of a service. -/
inductive Cell where
  | process (pid : Pid)
  | group (id : GroupId)
  | row (row : RowId)
  | node (id : NodeId)
  deriving DecidableEq

namespace Cell

/-- What is in a cell. A slot of the arena is also in the set of free slots, or not. -/
inductive Contents where
  | process (table : Option DescriptorTable)
  | group (group : Option ShareGroup) (free : Bool)
  | row (holding : Option Holding)
  | node (node : Option Node)

inductive Leads : Contents → Cell → Prop
  | slot {table : DescriptorTable} {fd : Descriptor} {id : GroupId}
      (slot : table.slot? fd = some (.shared id)) : Leads (.process (some table)) (.group id)
  | row (group : ShareGroup) (free : Bool) : Leads (.group (some group) free) (.row group.row)
  | object (holding : Holding) : Leads (.row (some holding)) (.node holding.object.node)

/-- The contents of a cell lead into a region only. -/
def Within (region : Set Cell) (contents : Contents) : Prop :=
  ∀ cell, Leads contents cell → cell ∈ region

end Cell

namespace Service

open Cell (Contents Leads Within)

variable {κ : Type}

def look (s : Service FileTree κ) : Cell → Contents
  | .process pid => .process (s.tables.processes.get? pid)
  | .group id => .group (s.tables.groups.group? id) (s.tables.groups.free.contains id.index)
  | .row row => .row (s.tables.system.holding? row)
  | .node id => .node (s.storage.node? id)

/-- What is in no cell: the limits, the sizes of the tables, the paths, the console and
the counters. -/
def frame (s : Service FileTree κ) : Capacities × Allotment × Nat × Nat × FileTree × κ × Pid :=
  (s.capacities, s.allotment, s.tables.system.size, s.tables.groups.slots.length,
    { s.storage with nodes := [] }, s.console, s.pidCounter)

/-- Two states have the same frame and are the same on a region. -/
structure Agree (region : Set Cell) (s t : Service FileTree κ) : Prop where
  frame : s.frame = t.frame
  cells : Set.EqOn s.look t.look region

/-- No cell of a region leads out of it. -/
def Closed (region : Set Cell) (s : Service FileTree κ) : Prop :=
  ∀ cell ∈ region, Within region (s.look cell)

/-- One cell of the state has new contents, and nothing else has changed. -/
structure Writes (s : Service FileTree κ) (cell : Cell) (contents : Contents)
    (later : Service FileTree κ) : Prop where
  frame : later.frame = s.frame
  here : later.look cell = contents
  others : ∀ other, other ≠ cell → later.look other = s.look other

variable {region other : Set Cell} {s t u later : Service FileTree κ} {cell : Cell}
variable {contents : Contents}

namespace Agree

theorem refl (region : Set Cell) (s : Service FileTree κ) : Agree region s s :=
  ⟨rfl, Set.eqOn_refl _ _⟩

theorem symm (agree : Agree region s t) : Agree region t s :=
  ⟨agree.frame.symm, agree.cells.symm⟩

theorem trans (first : Agree region s t) (second : Agree region t u) : Agree region s u :=
  ⟨first.frame.trans second.frame, first.cells.trans second.cells⟩

theorem mono (agree : Agree region s t) (inside : other ⊆ region) : Agree other s t :=
  ⟨agree.frame, agree.cells.mono inside⟩

theorem union (agree : Agree region s t) (there : Agree other s t) :
    Agree (region ∪ other) s t :=
  ⟨agree.frame, agree.cells.union there.cells⟩

/-- The journal is in no cell. -/
theorem withJournal (agree : Agree region s t) (first second : Journal) :
    Agree region (s.withJournal first) (t.withJournal second) := ⟨agree.frame, agree.cells⟩

theorem granted (agree : Agree region s t) : s.storage.granted = t.storage.granted :=
  congrArg (fun (_, _, _, _, storage, _, _) => FileTree.granted storage) agree.frame

theorem processes (agree : Agree region s t) {pid : Pid} (here : .process pid ∈ region) :
    s.tables.processes.get? pid = t.tables.processes.get? pid :=
  Contents.process.inj (agree.cells here)

theorem groups (agree : Agree region s t) {id : GroupId} (here : .group id ∈ region) :
    s.tables.groups.group? id = t.tables.groups.group? id ∧
      s.tables.groups.free.contains id.index = t.tables.groups.free.contains id.index :=
  Contents.group.inj (agree.cells here)

theorem rows (agree : Agree region s t) {row : RowId} (here : .row row ∈ region) :
    s.tables.system.holding? row = t.tables.system.holding? row :=
  Contents.row.inj (agree.cells here)

theorem nodes (agree : Agree region s t) {id : NodeId} (here : .node id ∈ region) :
    s.storage.node? id = t.storage.node? id :=
  Contents.node.inj (agree.cells here)

/-- Both states are written to in one cell. -/
theorem write (agree : Agree region s t) (left : s.Writes cell contents u)
    (right : t.Writes cell contents later) : Agree region u later := by
  refine ⟨left.frame.trans (agree.frame.trans right.frame.symm), fun place here => ?_⟩
  by_cases same : place = cell
  · rw [same, left.here, right.here]
  · rw [left.others place same, right.others place same, agree.cells here]

end Agree

namespace Writes

/-- What is written to a cell of a region is seen nowhere outside the region. -/
theorem agree_compl (writes : s.Writes cell contents later) (here : cell ∈ region) :
    Agree regionᶜ s later := by
  refine ⟨writes.frame.symm, fun place outside => ?_⟩
  exact (writes.others place fun same => outside (same ▸ here)).symm

theorem closed (writes : s.Writes cell contents later) (closed : Closed region s)
    (within : Within region contents) : Closed region later := by
  intro place here
  by_cases same : place = cell
  · rwa [same, writes.here]
  · rw [writes.others place same]
    exact closed place here

end Writes

section Extensionality

/-- States that agree everywhere differ in their journals at most. -/
theorem eq_of_agree (agree : Agree Set.univ s t) : s.withJournal t.journal = t := by
  obtain ⟨capacities, allotment, ⟨⟨rows⟩, ⟨slots, free⟩, processes⟩,
    ⟨nodes, tree, directory, inodes, granted⟩, console, counter, journal⟩ := s
  obtain ⟨capacities', allotment', ⟨⟨rows'⟩, ⟨slots', free'⟩, processes'⟩,
    ⟨nodes', tree', directory', inodes', granted'⟩, console', counter', journal'⟩ := t
  have frame := agree.frame
  simp only [Service.frame, OpenTable.size, Prod.mk.injEq, FileTree.mk.injEq, true_and] at frame
  obtain ⟨rfl, rfl, height, width, ⟨rfl, rfl, rfl, rfl⟩, rfl, rfl⟩ := frame
  have rows_eq : rows = rows' :=
    eq_of_join height fun index => agree.rows (Set.mem_univ (Cell.row ⟨index⟩))
  have slots_eq : slots = slots' :=
    eq_of_join width fun index => (agree.groups (Set.mem_univ (Cell.group ⟨index⟩))).1
  have free_eq : free = free' := OrderedMap.ext_mem fun index =>
    Bool.eq_iff_iff.mp (agree.groups (Set.mem_univ (Cell.group ⟨index⟩))).2
  have processes_eq : processes = processes' :=
    OrderedMap.ext_get? fun pid => agree.processes (Set.mem_univ (Cell.process pid))
  have nodes_eq : nodes = nodes' :=
    List.ext_getElem? fun index => agree.nodes (Set.mem_univ (Cell.node ⟨index⟩))
  subst rows_eq slots_eq free_eq processes_eq nodes_eq
  rfl

end Extensionality

section Steps

variable (s)

/-- A process gets a table. -/
theorem writes_withProcesses (pid : Pid) (table : DescriptorTable) :
    s.Writes (.process pid) (.process (some table))
      (s.withProcesses (s.tables.processes.insert pid table)) where
  frame := rfl
  here := congrArg Contents.process (OrderedMap.get?_insert_self s.tables.processes pid table)
  others cell apart := by
    cases cell with
    | process other =>
        have distinct : pid ≠ other := fun same => apart (by rw [same])
        exact congrArg Contents.process
          (OrderedMap.get?_insert_of_ne s.tables.processes distinct table)
    | _ => rfl

/-- A slot of the arena gets other contents, and is as free as it was. -/
theorem writes_setSlot {id : GroupId} {group : ShareGroup}
    (live : s.tables.groups.group? id = some group) (slot : Option ShareGroup) :
    s.Writes (.group id) (.group slot (s.tables.groups.free.contains id.index))
      (s.withGroups (s.tables.groups.setSlot id slot)) where
  frame := by simp only [frame, withGroups, GroupArena.setSlot, List.length_set]
  here := by
    simp only [look, withGroups, GroupArena.free_setSlot, if_true,
      GroupArena.group?_setSlot slot (GroupArena.index_lt_of_group? live)]
  others cell apart := by
    cases cell with
    | group other =>
        have distinct : id ≠ other := fun same => apart (by rw [same])
        simp only [look, withGroups, GroupArena.free_setSlot, if_neg distinct,
          GroupArena.group?_setSlot slot (GroupArena.index_lt_of_group? live)]
    | _ => rfl

/-- A group is dissolved, and its slot is free. -/
theorem writes_dissolve {id : GroupId} {group : ShareGroup}
    (live : s.tables.groups.group? id = some group) :
    s.Writes (.group id) (.group none true)
      (s.withGroups ⟨s.tables.groups.slots.set id.index none,
        OrderedSet.insert s.tables.groups.free id.index⟩) := by
  have emptied (other : GroupId) := GroupArena.group?_setSlot (none : Option ShareGroup)
    (GroupArena.index_lt_of_group? live) other
  have freed (index : Nat) := OrderedMap.get?_insert s.tables.groups.free id.index index ()
  refine ⟨?_, ?_, fun cell apart => ?_⟩
  · simp only [frame, withGroups, List.length_set]
  · refine congrArg₂ Contents.group ((emptied id).trans (if_pos rfl)) ?_
    exact congrArg Option.isSome ((freed id.index).trans (if_pos rfl))
  · cases cell with
    | group other =>
        have distinct : id ≠ other := fun same => apart (by rw [same])
        have indices : id.index ≠ other.index := fun same =>
          distinct (by cases id; cases other; exact congrArg GroupId.mk same)
        refine congrArg₂ Contents.group ((emptied other).trans (if_neg distinct)) ?_
        exact congrArg Option.isSome ((freed other.index).trans (if_neg indices))
    | _ => rfl

/-- A row of the system table gets other contents. -/
theorem writes_setRow {row : RowId} {holding : Holding}
    (found : s.tables.system.holding? row = some holding) (later : Option Holding) :
    s.Writes (.row row) (.row later) (s.withSystem (s.tables.system.setRow row later)) where
  frame := by simp only [frame, withSystem, OpenTable.size_setRow]
  here := by
    simp only [look, withSystem, if_true,
      OpenTable.holding?_setRow later (OpenTable.index_lt_of_holding? found)]
  others cell apart := by
    cases cell with
    | row other =>
        have distinct : row ≠ other := fun same => apart (by rw [same])
        simp only [look, withSystem, if_neg distinct,
          OpenTable.holding?_setRow later (OpenTable.index_lt_of_holding? found)]
    | _ => rfl

/-- A node is changed. -/
theorem writes_adjust (id : NodeId) (f : Node → Node) :
    s.Writes (.node id) (.node ((s.storage.node? id).map f))
      (s.withStorage (s.storage.adjust id f)) where
  frame := rfl
  here := congrArg Contents.node ((FileTree.node?_adjust f id).trans (if_pos rfl))
  others cell apart := by
    cases cell with
    | node other =>
        have distinct : id ≠ other := fun same => apart (by rw [same])
        exact congrArg Contents.node ((FileTree.node?_adjust f other).trans (if_neg distinct))
    | _ => rfl

end Steps

end Service

end OpenFiles
