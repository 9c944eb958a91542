import OpenFiles.Proofs.FileTree.Paths
import OpenFiles.Proofs.Service.Closing

/-!
# What becomes of the contents of a node

An open changes the row of the node it finds, or of the one it makes. A write, a
removal and a release change the row of one node. `dataAt` and `opensAt` see a row
from outside, and for every request it is said when they change.

A node is `Spent` when its path is gone and its opens are all matched by releases.
That is when contents are dropped, by a release or a removal, whichever comes last:
contents that have changed otherwise than by a write or an open are those of a spent
node.
-/

namespace OpenFiles

namespace OpenFlags

def asksWrite (flags : OpenFlags) : Bool :=
  match flags.openMode with
  | .ok mode => mode.writable
  | .error _ => false

/-- Whether an open with the flags empties the regular file it finds. -/
def empties (flags : OpenFlags) : Bool := flags.truncate && flags.asksWrite

theorem asksWrite_of_openMode {flags : OpenFlags} {mode : OpenMode}
    (asked : flags.openMode = .ok mode) : flags.asksWrite = mode.writable := by
  rw [asksWrite, asked]

end OpenFlags

namespace Node

/-- The path is gone, and every open has been matched by a release. -/
def Spent (node : Node) : Prop := node.removed = true ∧ node.opens ≤ node.releases

def afterOpenWith (flags : OpenFlags) (node : Node) : Node :=
  (if node.kind = .regular ∧ flags.empties = true then node.withData [] else node).afterOpen

variable {node : Node}

theorem spent_purge : node.purge.Spent ↔ node.Spent := by
  rw [Spent, removed_purge, opens_purge, releases_purge, Spent]

theorem data_purge_of_spent (spent : node.Spent) : node.purge.data = [] := by
  rw [data_purge]
  exact if_pos spent

theorem data_purge_of_not_spent (kept : ¬ node.Spent) : node.purge.data = node.data := by
  rw [data_purge]
  exact if_neg kept

/-- A node that a purge leaves without its contents is spent. -/
theorem data_purge_or_spent : node.purge.data = node.data ∨ node.purge.Spent := by
  by_cases spent : node.Spent
  · exact .inr (spent_purge.mpr spent)
  · exact .inl (data_purge_of_not_spent spent)

theorem opens_afterOpenWith (flags : OpenFlags) :
    (node.afterOpenWith flags).opens = node.opens + 1 := by
  rw [afterOpenWith]
  split <;> rfl

theorem releases_afterOpenWith (flags : OpenFlags) :
    (node.afterOpenWith flags).releases = node.releases := by
  rw [afterOpenWith]
  split <;> rfl

theorem removed_afterOpenWith (flags : OpenFlags) :
    (node.afterOpenWith flags).removed = node.removed := by
  rw [afterOpenWith]
  split <;> rfl

theorem data_afterOpenWith (flags : OpenFlags) :
    (node.afterOpenWith flags).data =
      if node.kind = .regular ∧ flags.empties = true then [] else node.data := by
  rw [afterOpenWith]
  split <;> rfl

/-- A property that nodes have when they are made, and keep when they are opened, released
and removed. -/
structure Durable (P : Node → Prop) : Prop where
  fresh : ∀ inode kind permission, P (Node.fresh inode kind permission)
  opened : ∀ flags node, P node → P (node.afterOpenWith flags)
  released : ∀ node, P node → P node.afterRelease
  removed : ∀ node, P node → P node.afterRemoval

/-- Spent nodes have no contents. -/
theorem durable_spent : Durable fun node => node.Spent → node.data = [] where
  fresh inode kind permission _ := rfl
  opened flags node kept spent := by
    obtain ⟨removed, matched⟩ := spent
    rw [removed_afterOpenWith] at removed
    rw [opens_afterOpenWith, releases_afterOpenWith] at matched
    rw [data_afterOpenWith]
    split
    · rfl
    · exact kept ⟨removed, Nat.le_of_succ_le matched⟩
  released node _ spent := data_purge_of_spent (spent_purge.mp spent)
  removed node _ spent := data_purge_of_spent (spent_purge.mp spent)

/-- Contents that are lost have any property that none have. -/
theorem durable_data {P : Node → Prop} (blank : ∀ node, node.data = [] → P node)
    (same : ∀ node later : Node, later.data = node.data → later.kind = node.kind →
      P node → P later) : Durable P where
  fresh inode kind permission := blank _ rfl
  opened flags node kept := by
    rw [afterOpenWith]
    split
    · exact blank _ rfl
    · exact same node _ rfl rfl kept
  released node kept := by
    rw [afterRelease, purge]
    split
    · exact blank _ rfl
    · exact same node _ rfl rfl kept
  removed node kept := by
    rw [afterRemoval, purge]
    split
    · exact blank _ rfl
    · exact same node _ rfl rfl kept

/-- What is written at the end of contents goes behind them. -/
theorem overwrite_length (contents data : Bytes) :
    overwrite contents contents.length data = contents ++ data := by
  simp [overwrite]

end Node

namespace FileTree

variable {fs later : FileTree} {id : NodeId} {object : Object} {path : Path} {text : String}
variable {kind : FileKind} {permission : UInt32} {flags : OpenFlags}

/-- The contents of the node in a row; none for an empty row. -/
def dataAt (fs : FileTree) (id : NodeId) : Bytes := (fs.node? id).elim [] Node.data

/-- How often the node in a row was opened; never for an empty row. -/
def opensAt (fs : FileTree) (id : NodeId) : Nat := (fs.node? id).elim 0 Node.opens

def RemovedAt (fs : FileTree) (id : NodeId) : Prop :=
  ∃ node, fs.node? id = some node ∧ node.removed = true

def SpentAt (fs : FileTree) (id : NodeId) : Prop := ∃ node, fs.node? id = some node ∧ node.Spent

def Each (P : Node → Prop) (fs : FileTree) : Prop := ∀ id node, fs.node? id = some node → P node

def Purged (fs : FileTree) : Prop :=
  ∀ id node, fs.node? id = some node → node.Spent → node.data = []

theorem each_of_nodes {P : Node → Prop} (each : ∀ node ∈ fs.nodes, P node) : fs.Each P :=
  fun _ node found => each node (List.mem_of_getElem? found)

theorem dataAt_of_node? {node : Node} (found : fs.node? id = some node) :
    fs.dataAt id = node.data := by
  rw [dataAt, found]
  rfl

theorem opensAt_of_node? {node : Node} (found : fs.node? id = some node) :
    fs.opensAt id = node.opens := by
  rw [opensAt, found]
  rfl

theorem releasesAt_of_node? {node : Node} (found : fs.node? id = some node) :
    fs.releasesAt id = node.releases := by
  rw [releasesAt, found]
  rfl

theorem SpentAt.removedAt (spent : fs.SpentAt id) : fs.RemovedAt id := by
  obtain ⟨node, found, removed, _⟩ := spent
  exact ⟨node, found, removed⟩

theorem RemovedAt.not_present (gone : fs.RemovedAt id) : ¬ fs.Present id := by
  rintro ⟨node, found, there⟩
  obtain ⟨node', found', removed⟩ := gone
  rw [found, Option.some.injEq] at found'
  rw [← found', there] at removed
  cases removed

theorem RemovedAt.spentAt (gone : fs.RemovedAt id) (matched : fs.opensAt id ≤ fs.releasesAt id) :
    fs.SpentAt id := by
  obtain ⟨node, found, removed⟩ := gone
  rw [opensAt_of_node? found, releasesAt_of_node? found] at matched
  exact ⟨node, found, removed, matched⟩

theorem SpentAt.opensAt_le (spent : fs.SpentAt id) : fs.opensAt id ≤ fs.releasesAt id := by
  obtain ⟨node, found, _, matched⟩ := spent
  rwa [opensAt_of_node? found, releasesAt_of_node? found]

theorem Purged.dataAt (purged : fs.Purged) (spent : fs.SpentAt id) : fs.dataAt id = [] := by
  obtain ⟨node, found, spent⟩ := spent
  rw [dataAt_of_node? found]
  exact purged id node found spent

theorem summary_eq_ok {node : Node} (named : fs.pathOf text = .ok path)
    (leads : fs.tree.get? path = some id) (there : fs.node? id = some node) :
    fs.summary text = .ok node.summary := by
  simp only [summary, named, lookup, leads, there, bind, Except.bind]

theorem summary_eq_error (named : fs.pathOf text = .ok path)
    (vacant : fs.tree.get? path = none) : fs.summary text = .error .notFound := by
  simp only [summary, named, lookup, vacant, bind, Except.bind]

section Rows

variable {f : Node → Node}

theorem node?_adjust_cases {node : Node} {other : NodeId}
    (found : (fs.adjust id f).node? other = some node) :
    fs.node? other = some node ∨
      id = other ∧ ∃ before, fs.node? other = some before ∧ f before = node := by
  rw [node?_adjust] at found
  split at found
  · rename_i here
    exact .inr ⟨here, Option.map_eq_some_iff.mp found⟩
  · exact .inl found

/-- A row keeps whatever the change of its node keeps. -/
theorem elim_adjust {α : Type} {value : Node → α} (absent : α)
    (kept : ∀ node, fs.node? id = some node → value (f node) = value node) (other : NodeId) :
    ((fs.adjust id f).node? other).elim absent value = (fs.node? other).elim absent value := by
  rw [node?_adjust]
  split
  · rename_i here
    subst here
    cases found : fs.node? id with
    | none => rfl
    | some node => exact kept node found
  · rfl

theorem opensAt_adjust (f : Node → Node)
    (kept : ∀ node, fs.node? id = some node → (f node).opens = node.opens) (other : NodeId) :
    (fs.adjust id f).opensAt other = fs.opensAt other :=
  elim_adjust 0 kept other

theorem dataAt_adjust_of_ne {other : NodeId} (apart : id ≠ other) :
    (fs.adjust id f).dataAt other = fs.dataAt other := by
  rw [dataAt, node?_adjust, if_neg apart, dataAt]

theorem Each.adjust {P : Node → Prop} (each : fs.Each P)
    (kept : ∀ node, fs.node? id = some node → P node → P (f node)) : (fs.adjust id f).Each P := by
  intro other node found
  rcases node?_adjust_cases found with before | ⟨rfl, before, was, rfl⟩
  · exact each other node before
  · exact kept before was (each id before was)

/-- A path that is gone stays gone while nodes are changed. -/
theorem RemovedAt.adjust {other : NodeId} (gone : fs.RemovedAt other)
    (kept : ∀ node, node.removed = true → (f node).removed = true) :
    (fs.adjust id f).RemovedAt other := by
  obtain ⟨node, found, removed⟩ := gone
  rw [RemovedAt, node?_adjust, found]
  split
  · exact ⟨f node, rfl, kept node removed⟩
  · exact ⟨node, rfl, removed⟩

/-- It matters only what becomes of the node that is there. -/
theorem adjust_congr {g : Node → Node} {node : Node} (found : fs.node? id = some node)
    (same : f node = g node) : fs.adjust id f = fs.adjust id g := by
  have nodes : fs.nodes.modify id.index f = fs.nodes.modify id.index g := by
    apply List.ext_getElem?
    intro index
    rw [List.getElem?_modify, List.getElem?_modify]
    by_cases here : id.index = index
    · subst here
      have there : fs.nodes[id.index]? = some node := found
      simp [there, same]
    · simp [here]
  rw [adjust, adjust, nodes]

/-- Putting a node back where it is changes nothing. -/
theorem adjust_self {node : Node} (found : fs.node? id = some node) :
    fs.adjust id (fun _ => node) = fs := by
  rw [@adjust_congr fs id _ (fun node => node) node found rfl]
  exact congrArg (fun nodes => { fs with nodes := nodes }) (List.modify_id _ _)

end Rows

section Opening

/-- Where an open finds its node, and the paths that it leaves behind: the text leads
to the node, or it leads nowhere and a regular file is made for it. -/
inductive Entry (fs : FileTree) (text : String) (id : NodeId) :
    Node → OrderedMap Path NodeId → Prop
  | found {path : Path} {node : Node} (named : fs.pathOf text = .ok path)
      (leads : fs.tree.get? path = some id) (there : fs.node? id = some node) :
      Entry fs text id node fs.tree
  | made {path : Path} {inode : Inode} {permission : UInt32} (named : fs.pathOf text = .ok path)
      (vacant : fs.tree.get? path = none) (free : fs.node? id = none) :
      Entry fs text id (Node.fresh inode .regular permission) (fs.tree.insert path id)

/-- A created node comes to an empty row, and the other rows stay. -/
theorem Created.node? (created : Created fs path kind permission id later) :
    fs.node? id = none ∧ ∃ inode, ∀ other, later.node? other =
      if id = other then some (Node.fresh inode kind permission) else fs.node? other := by
  obtain ⟨_, _, rfl, rfl⟩ := created
  exact ⟨node?_addNode_vacant kind permission, _, node?_addNode kind permission⟩

theorem entry_of_locate {create exclusive : Bool}
    (located : fs.locate text create exclusive permission = .ok (id, later)) {node : Node}
    (there : later.node? id = some node) :
    Entry fs text id node later.tree ∧
      ∀ other, id ≠ other → later.node? other = fs.node? other := by
  obtain ⟨path, named, ⟨leads, rfl⟩ | created⟩ := located_or_created located
  · exact ⟨.found named leads there, fun _ _ => rfl⟩
  · obtain ⟨free, inode, rows⟩ := created.node?
    have fresh := rows id
    rw [if_pos rfl, there, Option.some.injEq] at fresh
    subst fresh
    have tree : later.tree = fs.tree.insert path id := by
      rw [created.grown]
    rw [tree]
    refine ⟨.made named (OrderedMap.not_mem_iff.mp created.vacant) free, ?_⟩
    intro other apart
    rw [rows, if_neg apart]

/-- An open that is granted changes one row: that of the node it found or made. -/
theorem node?_openPath (opened : fs.openPath text flags permission = .ok (object, later)) :
    ∃ node, Entry fs text object.node node later.tree ∧ node.inode = object.inode ∧
      ∀ id, later.node? id =
        if object.node = id then some (node.afterOpenWith flags) else fs.node? id := by
  obtain ⟨grown, node, mode, asked, located, there, inode, _, rfl⟩ := opened_of_openPath opened
  obtain ⟨entry, elsewhere⟩ := entry_of_locate located there
  have writes := OpenFlags.asksWrite_of_openMode asked
  refine ⟨node, ?_, inode, ?_⟩
  · split <;> exact entry
  · intro id
    by_cases here : object.node = id
    · subst here
      have emptied : (flags.truncate = true ∧ mode.writable = true) ↔ flags.empties = true := by
        rw [OpenFlags.empties, writes, Bool.and_eq_true]
      rw [if_pos rfl, node?_adjust, if_pos rfl]
      simp only [emptied, Node.afterOpenWith]
      split
      · rw [node?_adjust, if_pos rfl, there]
        rfl
      · rw [there]
        rfl
    · rw [if_neg here, node?_adjust, if_neg here, ← elsewhere id here]
      split
      · rw [node?_adjust, if_neg here]
      · rfl

/-- What an open found is as it was, or was not there and has no contents. -/
theorem Entry.dataAt {node : Node} {tree : OrderedMap Path NodeId}
    (entry : Entry fs text id node tree) : node.data = fs.dataAt id := by
  cases entry with
  | found named leads there => exact (dataAt_of_node? there).symm
  | made named vacant free =>
      rw [FileTree.dataAt, free]
      rfl

theorem Entry.opensAt {node : Node} {tree : OrderedMap Path NodeId}
    (entry : Entry fs text id node tree) : node.opens = fs.opensAt id := by
  cases entry with
  | found named leads there => exact (opensAt_of_node? there).symm
  | made named vacant free =>
      rw [FileTree.opensAt, free]
      rfl

theorem opensAt_openPath (opened : fs.openPath text flags permission = .ok (object, later))
    (id : NodeId) : later.opensAt id = fs.opensAt id + if object.node = id then 1 else 0 := by
  obtain ⟨node, entry, _, rows⟩ := node?_openPath opened
  by_cases here : object.node = id
  · subst here
    have now := rows object.node
    rw [if_pos rfl] at now
    rw [opensAt_of_node? now, Node.opens_afterOpenWith, entry.opensAt, if_pos rfl]
  · rw [opensAt, rows, if_neg here, if_neg here, opensAt, Nat.add_zero]

/-- The text leads to a regular file, and an open with the flags empties it. -/
structure Emptied (fs : FileTree) (text : String) (flags : OpenFlags) (id : NodeId) : Prop where
  asked : flags.empties = true
  leads : ∃ path, fs.pathOf text = .ok path ∧ fs.tree.get? path = some id
  regular : fs.kindOf id = some .regular

/-- An open changes no contents but those of a file that it empties. -/
theorem dataAt_openPath (opened : fs.openPath text flags permission = .ok (object, later))
    (id : NodeId) :
    later.dataAt id = fs.dataAt id ∨
      (object.node = id ∧ Emptied fs text flags id ∧ later.dataAt id = []) := by
  obtain ⟨node, entry, _, rows⟩ := node?_openPath opened
  generalize later.tree = tree at entry
  by_cases here : object.node = id
  · subst here
    have now := rows object.node
    rw [if_pos rfl] at now
    rw [dataAt_of_node? now, Node.data_afterOpenWith]
    split
    · rename_i emptied
      cases entry with
      | made named vacant free =>
          left
          rw [dataAt, free]
          rfl
      | found named leads there =>
          refine .inr ⟨rfl, ⟨emptied.2, ⟨_, named, leads⟩, ?_⟩, rfl⟩
          rw [kindOf, there, Option.map_some, emptied.1]
    · exact .inl entry.dataAt
  · left
    rw [dataAt, rows, if_neg here, dataAt]

theorem RemovedAt.openPath (gone : fs.RemovedAt id)
    (opened : fs.openPath text flags permission = .ok (object, later)) : later.RemovedAt id := by
  obtain ⟨node, entry, _, rows⟩ := node?_openPath opened
  generalize later.tree = tree at entry
  obtain ⟨node', found, removed⟩ := gone
  by_cases here : object.node = id
  · subst here
    refine ⟨node.afterOpenWith flags, (rows _).trans (if_pos rfl), ?_⟩
    rw [Node.removed_afterOpenWith]
    cases entry with
    | found named leads there =>
        rw [found, Option.some.injEq] at there
        rwa [← there]
    | made named vacant free =>
        rw [found] at free
        cases free
  · exact ⟨node', (rows id).trans ((if_neg here).trans found), removed⟩

theorem Each.openPath {P : Node → Prop} (each : fs.Each P) (durable : Node.Durable P)
    (opened : fs.openPath text flags permission = .ok (object, later)) : later.Each P := by
  obtain ⟨node, entry, _, rows⟩ := node?_openPath opened
  generalize later.tree = tree at entry
  intro id node' found
  rw [rows] at found
  split at found
  · cases found
    apply durable.opened
    cases entry with
    | found named leads there => exact each _ node there
    | made named vacant free => exact durable.fresh _ _ _
  · exact each id node' found

end Opening

section Writing

variable {position : Nat} {data : Bytes}

/-- What a write can do: it is refused, swallowed by a device, or stored in a regular
file. -/
inductive Stored (fs : FileTree) (object : Object) (position : Nat) (data : Bytes) :
    Except Error Nat × FileTree → Prop
  | refused (reason : Error) : Stored fs object position data (.error reason, fs)
  | swallowed {node : Node} (found : fs.node? object.node = some node)
      (device : node.kind ≠ .regular) : Stored fs object position data (.ok data.length, fs)
  | stored {node : Node} (found : fs.node? object.node = some node)
      (regular : node.kind = .regular) (inside : position + data.length < wordLimit) :
      Stored fs object position data (.ok data.length, fs.adjust object.node fun _ =>
        node.withData (Node.overwrite node.data position data))

theorem stored (fs : FileTree) (object : Object) (position : Nat) (data : Bytes) :
    Stored fs object position data (fs.writeAt object position data) := by
  rw [FileTree.writeAt]
  cases found : fs.node? object.node with
  | none => exact .refused _
  | some node =>
      have same := adjust_self found
      simp only [Node.writeAt]
      cases kind : node.kind with
      | directory =>
          rw [same]
          exact .refused _
      | charDevice =>
          rw [same]
          exact .swallowed found (by simp [kind])
      | blockDevice =>
          rw [same]
          exact .swallowed found (by simp [kind])
      | regular =>
          dsimp only
          split
          · rw [same]
            exact .refused _
          · split
            · rw [same]
              exact .refused _
            · exact .stored found kind (by omega)

theorem sizeOf_eq_length (fs : FileTree) (object : Object) :
    sizeOf object fs = (fs.dataAt object.node).length := by
  rw [sizeOf, dataAt]
  cases fs.node? object.node <;> rfl

/-- A write that starts at the end of a regular file appends. -/
theorem dataAt_append {count : Nat} (regular : fs.kindOf object.node = some .regular)
    (answer : fs.writeAt object (sizeOf object fs) data = (.ok count, later)) :
    count = data.length ∧ later.dataAt object.node = fs.dataAt object.node ++ data := by
  obtain ⟨node, found, kind⟩ := Option.map_eq_some_iff.mp regular
  have outcome := stored fs object (sizeOf object fs) data
  rw [answer, sizeOf_eq_length, dataAt_of_node? found] at outcome
  rw [dataAt_of_node? found]
  cases outcome with
  | swallowed found' device =>
      rw [found, Option.some.injEq] at found'
      exact absurd (found' ▸ kind) device
  | stored found' regular inside =>
      rw [found, Option.some.injEq] at found'
      subst found'
      refine ⟨rfl, ?_⟩
      rw [dataAt, node?_adjust, if_pos rfl, found, ← Node.overwrite_length]
      rfl

theorem opensAt_writeAt (object : Object) (position : Nat) (data : Bytes) (id : NodeId) :
    (fs.writeAt object position data).2.opensAt id = fs.opensAt id := by
  have outcome := stored fs object position data
  generalize fs.writeAt object position data = answer at outcome
  cases outcome with
  | refused reason => rfl
  | swallowed found device => rfl
  | stored found regular inside =>
      refine opensAt_adjust _ ?_ id
      intro node found'
      rw [found, Option.some.injEq] at found'
      rw [← found']
      rfl

theorem RemovedAt.writeAt (gone : fs.RemovedAt id) (object : Object) (position : Nat)
    (data : Bytes) : (fs.writeAt object position data).2.RemovedAt id := by
  have outcome := stored fs object position data
  generalize fs.writeAt object position data = answer at outcome
  cases outcome with
  | refused reason => exact gone
  | swallowed found device => exact gone
  | stored found regular inside =>
      obtain ⟨node, found', removed⟩ := gone
      rw [RemovedAt, node?_adjust, found']
      split
      · rename_i here
        rw [here, found', Option.some.injEq] at found
        subst found
        exact ⟨_, rfl, removed⟩
      · exact ⟨node, rfl, removed⟩

/-- Only regular files are written to. -/
theorem Each.writeAt {P : Node → Prop} (each : fs.Each P) (object : Object)
    (written : ∀ node, node.kind = .regular → position + data.length < wordLimit → P node →
      P (node.withData (Node.overwrite node.data position data))) :
    (fs.writeAt object position data).2.Each P := by
  have outcome := stored fs object position data
  generalize fs.writeAt object position data = answer at outcome
  cases outcome with
  | refused reason => exact each
  | swallowed found device => exact each
  | @stored node found regular inside =>
      exact each.adjust fun _ _ _ => written node regular inside (each _ node found)

theorem Purged.writeAt (purged : fs.Purged) (live : ¬ fs.SpentAt object.node) (position : Nat)
    (data : Bytes) : (fs.writeAt object position data).2.Purged := by
  have outcome := stored fs object position data
  generalize fs.writeAt object position data = answer at outcome
  cases outcome with
  | refused reason => exact purged
  | swallowed found device => exact purged
  | @stored node found regular inside =>
      exact Each.adjust purged fun _ _ _ spent => absurd ⟨node, found, spent⟩ live

end Writing

section Releasing

theorem opensAt_release (object : Object) (id : NodeId) :
    (fs.release object).opensAt id = fs.opensAt id :=
  opensAt_adjust Node.afterRelease (fun _ _ => Node.opens_purge) id

theorem dataAt_adjust_purge (f : Node → Node) (same : ∀ node, (f node).data = node.data)
    (id other : NodeId) :
    (fs.adjust id fun node => (f node).purge).dataAt other = fs.dataAt other ∨
      (fs.adjust id fun node => (f node).purge).SpentAt other := by
  rw [dataAt, SpentAt, node?_adjust]
  split
  · cases found : fs.node? other with
    | none =>
        left
        rw [dataAt, found]
        rfl
    | some node =>
        rcases @Node.data_purge_or_spent (f node) with kept | spent
        · left
          rw [dataAt_of_node? found]
          exact kept.trans (same node)
        · exact .inr ⟨_, rfl, spent⟩
  · exact .inl rfl

theorem dataAt_release (fs : FileTree) (object : Object) (id : NodeId) :
    (fs.release object).dataAt id = fs.dataAt id ∨ (fs.release object).SpentAt id :=
  dataAt_adjust_purge (fun node => { node with releases := node.releases + 1 }) (fun _ => rfl)
    object.node id

theorem SpentAt.release (spent : fs.SpentAt id) (object : Object) :
    (fs.release object).SpentAt id := by
  obtain ⟨node, found, removed, matched⟩ := spent
  rw [SpentAt, FileTree.release, node?_adjust, found]
  split
  · refine ⟨_, rfl, Node.spent_purge.mpr ⟨removed, ?_⟩⟩
    exact Nat.le_succ_of_le matched
  · exact ⟨node, rfl, removed, matched⟩

theorem Each.release {P : Node → Prop} (each : fs.Each P) (durable : Node.Durable P)
    (object : Object) : (fs.release object).Each P :=
  each.adjust fun node _ => durable.released node

theorem opensAt_releaseAll (gone : List Object) (fs : FileTree) (id : NodeId) :
    (releaseAll gone fs).opensAt id = fs.opensAt id := by
  induction gone generalizing fs with
  | nil => rfl
  | cons object gone ih => exact (ih (fs.release object)).trans (opensAt_release object id)

theorem RemovedAt.release (gone : fs.RemovedAt id) (object : Object) :
    (fs.release object).RemovedAt id :=
  gone.adjust fun _ removed => Node.removed_purge.trans removed

theorem SpentAt.releaseAll (spent : fs.SpentAt id) (gone : List Object) :
    (releaseAll gone fs).SpentAt id := by
  induction gone generalizing fs with
  | nil => exact spent
  | cons object gone ih => exact ih (spent.release object)

/-- Releases change no contents but those of nodes that are spent then. -/
theorem dataAt_releaseAll (gone : List Object) (fs : FileTree) (id : NodeId) :
    (releaseAll gone fs).dataAt id = fs.dataAt id ∨ (releaseAll gone fs).SpentAt id := by
  induction gone generalizing fs with
  | nil => exact .inl rfl
  | cons object gone ih =>
      rcases dataAt_release fs object id with kept | spent
      · exact (ih (fs.release object)).imp_left fun later => later.trans kept
      · exact .inr (spent.releaseAll gone)

end Releasing

section Removing

theorem opensAt_unlink (removed : fs.unlink text = .ok later) (id : NodeId) :
    later.opensAt id = fs.opensAt id := by
  obtain ⟨path, row, _, _, rfl⟩ := removed_of_unlink removed
  exact opensAt_adjust Node.afterRemoval (fun _ _ => Node.opens_purge) id

/-- A removal changes no contents but those of a node that is spent then. -/
theorem dataAt_unlink (removed : fs.unlink text = .ok later) (id : NodeId) :
    later.dataAt id = fs.dataAt id ∨ later.SpentAt id := by
  obtain ⟨path, row, _, _, rfl⟩ := removed_of_unlink removed
  exact dataAt_adjust_purge (fun node => { node with removed := true }) (fun _ => rfl) row id

theorem Each.unlink {P : Node → Prop} (each : fs.Each P) (durable : Node.Durable P)
    (removed : fs.unlink text = .ok later) : later.Each P := by
  obtain ⟨path, row, _, _, rfl⟩ := removed_of_unlink removed
  have taken : Each P { fs with tree := fs.tree.erase path } := each
  exact taken.adjust fun node _ => durable.removed node

theorem opensAt_removePath (text : String) (id : NodeId) :
    (fs.removePath text).2.opensAt id = fs.opensAt id := by
  rcases removePath_cases fs text with same | removed
  · rw [same]
  · exact opensAt_unlink removed id

theorem dataAt_removePath (fs : FileTree) (text : String) (id : NodeId) :
    (fs.removePath text).2.dataAt id = fs.dataAt id ∨ (fs.removePath text).2.SpentAt id := by
  rcases removePath_cases fs text with same | removed
  · rw [same]
    exact .inl rfl
  · exact dataAt_unlink removed id

theorem RemovedAt.removePath (gone : fs.RemovedAt id) (text : String) :
    (fs.removePath text).2.RemovedAt id := by
  rcases removePath_cases fs text with same | removed
  · rwa [same]
  · obtain ⟨path, row, _, _, after⟩ := removed_of_unlink removed
    rw [after]
    have taken : RemovedAt { fs with tree := fs.tree.erase path } id := gone
    exact taken.adjust fun _ _ => Node.removed_purge

theorem Each.removePath {P : Node → Prop} (each : fs.Each P) (durable : Node.Durable P)
    (text : String) : (fs.removePath text).2.Each P := by
  rcases removePath_cases fs text with same | removed
  · rwa [same]
  · exact each.unlink durable removed

end Removing

section Administering

theorem opensAt_created (created : Created fs path kind permission id later) (other : NodeId) :
    later.opensAt other = fs.opensAt other := by
  obtain ⟨free, inode, rows⟩ := created.node?
  rw [opensAt, rows]
  split
  · rename_i here
    rw [opensAt, ← here, free]
    rfl
  · rfl

theorem Each.created {P : Node → Prop} (each : fs.Each P) (durable : Node.Durable P)
    (created : Created fs path kind permission id later) : later.Each P := by
  obtain ⟨free, inode, rows⟩ := created.node?
  intro other node found
  rw [rows] at found
  split at found
  · cases found
    exact durable.fresh _ _ _
  · exact each other node found

/-- Whoever administers the tree opens nothing. -/
theorem opensAt_after (request : Change) (id : NodeId) :
    (fs.after request).opensAt id = fs.opensAt id := by
  rcases after_cases fs request with same | changed
  · rw [same]
  · generalize fs.after request = later at changed ⊢
    cases changed with
    | created created => exact opensAt_created created id
    | filled created data =>
        exact (opensAt_adjust (·.withData data) (fun _ _ => rfl) id).trans
          (opensAt_created created id)
    | moved directory => rfl
    | unlinked removed => exact opensAt_unlink removed id

/-- What nodes have without contents, and new regular files have with any, administration
keeps. -/
theorem Each.after {P : Node → Prop} (each : fs.Each P) (durable : Node.Durable P)
    (filled : ∀ inode permission data, P ((Node.fresh inode .regular permission).withData data))
    (request : Change) : (fs.after request).Each P := by
  rcases after_cases fs request with same | changed
  · rwa [same]
  · generalize fs.after request = later at changed ⊢
    cases changed with
    | created created => exact each.created durable created
    | @filled path permission id grown created data =>
        obtain ⟨_, inode, rows⟩ := created.node?
        refine (each.created durable created).adjust ?_
        intro node found _
        have fresh := rows id
        rw [if_pos rfl, found, Option.some.injEq] at fresh
        rw [fresh]
        exact filled _ _ _
    | moved directory => exact each
    | unlinked removed => exact each.unlink durable removed

/-- The one node of a bare tree has not been opened. -/
theorem eq_of_node?_bare {node : Node} (found : bare.node? id = some node) :
    node = Node.fresh .first .directory directoryPermission := by
  obtain ⟨_, here⟩ := List.getElem?_eq_some_iff.mp found
  exact List.mem_singleton.mp (here ▸ List.getElem_mem _)

/-- A tree that was only administered since it was new. -/
theorem each_administered {P : Node → Prop} (durable : Node.Durable P)
    (filled : ∀ inode permission data, P ((Node.fresh inode .regular permission).withData data))
    (changes : List Change) : (changes.foldl FileTree.after initial).Each P := by
  have folded (fs : FileTree) (each : fs.Each P) (changes : List Change) :
      (changes.foldl FileTree.after fs).Each P :=
    List.foldlRecOn changes FileTree.after each fun _ each change _ =>
      each.after durable filled change
  refine folded initial (folded bare ?_ _) changes
  intro id node found
  rw [eq_of_node?_bare found]
  exact durable.fresh _ _ _

theorem Purged.after (purged : fs.Purged) (request : Change) : (fs.after request).Purged :=
  Each.after purged Node.durable_spent (fun _ _ _ spent => by cases spent.1) request

/-- A tree that was only administered since it was new has no spent node with contents. -/
theorem purged_administered (changes : List Change) :
    (changes.foldl FileTree.after initial).Purged :=
  each_administered Node.durable_spent (fun _ _ _ spent => by cases spent.1) changes

theorem keeps_foldl_after (fs : FileTree) (changes : List Change) :
    Keeps fs (changes.foldl FileTree.after fs) :=
  List.foldlRecOn changes FileTree.after (.refl fs) fun _ kept change _ =>
    kept.trans (keeps_after change)

/-- Nor has any of its nodes been released. -/
theorem releasesAt_administered (changes : List Change) (id : NodeId) :
    (changes.foldl FileTree.after initial).releasesAt id = 0 := by
  have kept := (keeps_foldl_after bare _).trans (keeps_foldl_after initial changes)
  rw [kept.releases, releasesAt]
  cases found : bare.node? id with
  | none => rfl
  | some node =>
      rw [eq_of_node?_bare found]
      rfl

end Administering

end FileTree

end OpenFiles
