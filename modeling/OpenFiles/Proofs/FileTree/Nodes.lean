import OpenFiles.Proofs.FileTree.Outcomes

/-!
# What becomes of the nodes of a tree

Rows of nodes are never given up. `Extends` says that every node keeps its row, its
inode number and its kind; `Keeps` says in addition that no node is released. Every
request keeps the nodes in this sense, except that a release is counted by the one
node of the object.
-/

namespace OpenFiles

namespace FileTree

variable {fs middle later : FileTree} {id : NodeId} {object : Object}

/-- How often the objects of the node in a row were released; never for an empty row. -/
def releasesAt (fs : FileTree) (id : NodeId) : Nat := (fs.node? id).elim 0 Node.releases

/-- Nodes stay in their rows, under their inode numbers. -/
def Extends (fs later : FileTree) : Prop :=
  ∀ id node, fs.node? id = some node →
    ∃ node', later.node? id = some node' ∧ node'.inode = node.inode ∧ node'.kind = node.kind

/-- Nodes stay in their rows, and none is released. -/
structure Keeps (fs later : FileTree) : Prop where
  grown : Extends fs later
  releases : ∀ id, later.releasesAt id = fs.releasesAt id

def Names (fs : FileTree) (object : Object) : Prop :=
  ∃ node, fs.node? object.node = some node ∧ node.inode = object.inode ∧ node.kind = object.kind

/-- Different rows have different inode numbers. -/
def Identifies (fs : FileTree) : Prop :=
  ∀ id id' node node', fs.node? id = some node → fs.node? id' = some node' →
    node.inode = node'.inode → id = id'

/-- Whether numbers tell nodes apart can be seen from the list of numbers. -/
theorem identifies_of_nodup (distinct : (fs.nodes.map Node.inode).Nodup) : fs.Identifies := by
  rintro ⟨index⟩ ⟨index'⟩ node node' found found' same
  have small : index < (fs.nodes.map Node.inode).length := by
    rw [List.length_map]
    exact (List.getElem?_eq_some_iff.mp found).1
  have numbers : (fs.nodes.map Node.inode)[index]? = (fs.nodes.map Node.inode)[index']? := by
    change fs.nodes[index]? = some node at found
    change fs.nodes[index']? = some node' at found'
    rw [List.getElem?_map, List.getElem?_map, found, found', Option.map_some, Option.map_some, same]
  exact congrArg NodeId.mk ((List.getElem?_inj small distinct).mp numbers)

theorem Extends.refl (fs : FileTree) : Extends fs fs :=
  fun _ node found => ⟨node, found, rfl, rfl⟩

theorem Extends.trans (first : Extends fs middle) (second : Extends middle later) :
    Extends fs later := by
  intro id node found
  obtain ⟨node', found', inode', kind'⟩ := first id node found
  obtain ⟨node'', found'', inode'', kind''⟩ := second id node' found'
  exact ⟨node'', found'', inode''.trans inode', kind''.trans kind'⟩

theorem Extends.names (grown : Extends fs later) (named : fs.Names object) :
    later.Names object := by
  obtain ⟨node, found, inode, kind⟩ := named
  obtain ⟨node', found', inode', kind'⟩ := grown object.node node found
  exact ⟨node', found', inode'.trans inode, kind'.trans kind⟩

/-- A tree whose numbers are apart had them apart before. -/
theorem Extends.identifies (grown : Extends fs later) (apart : later.Identifies) :
    fs.Identifies := by
  intro id id' first second found found' same
  obtain ⟨node, found, inode, _⟩ := grown id first found
  obtain ⟨node', found', inode', _⟩ := grown id' second found'
  exact apart id id' node node' found found' (by rw [inode, inode', same])

/-- If numbers tell nodes apart, they tell the objects of nodes apart. -/
theorem Identifies.eq_of_names (apart : fs.Identifies) {first second : Object}
    (named : fs.Names first) (named' : fs.Names second) (same : first.inode = second.inode) :
    first = second := by
  obtain ⟨node, found, inode, kind⟩ := named
  obtain ⟨node', found', inode', kind'⟩ := named'
  have rows := apart first.node second.node node node' found found' (by rw [inode, inode', same])
  rw [rows, found', Option.some.injEq] at found
  subst found
  cases first
  cases second
  simp only [Object.mk.injEq]
  exact ⟨same, kind.symm.trans kind', rows⟩

theorem Keeps.refl (fs : FileTree) : Keeps fs fs := ⟨.refl fs, fun _ => rfl⟩

theorem Keeps.trans (first : Keeps fs middle) (second : Keeps middle later) : Keeps fs later :=
  ⟨first.grown.trans second.grown,
    fun id => (second.releases id).trans (first.releases id)⟩

/-- What a tree says about its nodes depends on the rows alone. -/
theorem Keeps.of_nodes (same : later.nodes = fs.nodes) : Keeps fs later := by
  have look (id : NodeId) : later.node? id = fs.node? id := by
    rw [node?, same, node?]
  refine ⟨fun id node found => ⟨node, (look id).trans found, rfl, rfl⟩, ?_⟩
  intro id
  rw [releasesAt, look, releasesAt]

theorem extends_adjust {f : Node → Node} (kept : ∀ node, fs.node? id = some node →
    (f node).inode = node.inode ∧ (f node).kind = node.kind) : Extends fs (fs.adjust id f) := by
  intro other node found
  rw [node?_adjust]
  by_cases here : id = other
  · subst here
    exact ⟨f node, by rw [if_pos rfl, found]; rfl, kept node found⟩
  · exact ⟨node, by rw [if_neg here, found], rfl, rfl⟩

theorem keeps_adjust {f : Node → Node} (kept : ∀ node, fs.node? id = some node →
    (f node).inode = node.inode ∧ (f node).kind = node.kind ∧ (f node).releases = node.releases) :
    Keeps fs (fs.adjust id f) := by
  refine ⟨extends_adjust ?_, ?_⟩
  · intro node found
    obtain ⟨inode, kind, _⟩ := kept node found
    exact ⟨inode, kind⟩
  · intro other
    rw [releasesAt, node?_adjust, releasesAt]
    by_cases here : id = other
    · subst here
      rw [if_pos rfl]
      cases found : fs.node? id with
      | none => rfl
      | some node => exact (kept node found).2.2
    · rw [if_neg here]

theorem keeps_withData (data : Bytes) : Keeps fs (fs.adjust id (·.withData data)) :=
  keeps_adjust fun _ _ => ⟨rfl, rfl, rfl⟩

theorem node?_addNode (kind : FileKind) (permission : UInt32) (other : NodeId) :
    (fs.addNode kind permission).2.node? other =
      if (fs.addNode kind permission).1 = other then
        some (Node.fresh (takeInode fs.inodeCounter).1 kind permission)
      else fs.node? other := by
  have nodes : (fs.addNode kind permission).2.nodes =
      fs.nodes ++ [Node.fresh (takeInode fs.inodeCounter).1 kind permission] := rfl
  have name : (fs.addNode kind permission).1 = ⟨fs.nodes.length⟩ := rfl
  rw [node?, nodes, name, List.getElem?_append]
  obtain ⟨index⟩ := other
  simp only [node?, NodeId.mk.injEq]
  rcases Nat.lt_trichotomy index fs.nodes.length with before | here | beyond
  · rw [if_pos before, if_neg (Nat.ne_of_gt before)]
  · subst here
    simp
  · rw [if_neg (Nat.lt_asymm beyond), if_neg (Nat.ne_of_lt beyond),
      List.getElem?_eq_none (Nat.le_of_lt beyond),
      List.getElem?_eq_none (by rw [List.length_singleton]; omega)]

theorem node?_addNode_vacant (kind : FileKind) (permission : UInt32) :
    fs.node? (fs.addNode kind permission).1 = none :=
  List.getElem?_eq_none (Nat.le_refl _)

/-- A fresh node comes to an empty row and has no releases. -/
theorem keeps_addNode (kind : FileKind) (permission : UInt32) :
    Keeps fs (fs.addNode kind permission).2 := by
  have vacant : fs.node? (fs.addNode kind permission).1 = none :=
    node?_addNode_vacant kind permission
  constructor
  · intro id node found
    refine ⟨node, ?_, rfl, rfl⟩
    have apart : (fs.addNode kind permission).1 ≠ id := by
      rintro rfl
      rw [vacant] at found
      cases found
    rw [node?_addNode, if_neg apart, found]
  · intro id
    rw [releasesAt, node?_addNode, releasesAt]
    by_cases here : (fs.addNode kind permission).1 = id
    · subst here
      rw [if_pos rfl, vacant]
      rfl
    · rw [if_neg here]

/-- All nodes are kept when another one is created. -/
theorem Created.keeps {path : Path} {kind : FileKind} {permission : UInt32}
    (created : Created fs path kind permission id later) : Keeps fs later := by
  rw [created.grown]
  exact (keeps_addNode kind permission).trans (.of_nodes rfl)

theorem keeps_locate {text : String} {create exclusive : Bool} {permission : UInt32}
    (located : fs.locate text create exclusive permission = .ok (id, later)) : Keeps fs later := by
  obtain ⟨path, _, ⟨_, same⟩ | created⟩ := located_or_created located
  · rw [same]
    exact .refl fs
  · exact created.keeps

/-- A successful open names a node, releases none, and loses none. -/
theorem keeps_openPath {text : String} {flags : OpenFlags} {permission : UInt32}
    (opened : fs.openPath text flags permission = .ok (object, later)) :
    Keeps fs later ∧ later.Names object := by
  obtain ⟨grown, node, mode, _, located, found, inode, kind, after⟩ := opened_of_openPath opened
  have emptied : Keeps grown (if node.kind = .regular ∧ flags.truncate ∧ mode.writable then
      grown.adjust object.node (·.withData []) else grown) := by
    split
    · exact keeps_withData []
    · exact .refl grown
  have counted : Keeps grown later := by
    rw [after]
    exact emptied.trans (keeps_adjust fun _ _ => ⟨rfl, rfl, rfl⟩)
  exact ⟨(keeps_locate located).trans counted, counted.grown.names ⟨node, found, inode, kind⟩⟩

/-- A removal marks one node, and may drop its contents. -/
theorem keeps_unlink {text : String} (removed : fs.unlink text = .ok later) : Keeps fs later := by
  obtain ⟨path, id, _, _, rfl⟩ := removed_of_unlink removed
  have taken : Keeps fs { fs with tree := fs.tree.erase path } := .of_nodes rfl
  refine taken.trans (keeps_adjust ?_)
  intro node _
  exact ⟨Node.inode_purge, Node.kind_purge, Node.releases_purge⟩

theorem keeps_removePath (text : String) : Keeps fs (fs.removePath text).2 := by
  rcases removePath_cases fs text with same | removed
  · rw [same]
    exact .refl fs
  · exact keeps_unlink removed

/-- A write changes the contents of a node and nothing else. -/
theorem exists_withData_writeAt (node : Node) (granted position : Nat) (data : Bytes) :
    ∃ contents, (node.writeAt granted position data).2 = node.withData contents := by
  have same : ∃ contents, node = node.withData contents := ⟨node.data, rfl⟩
  rw [Node.writeAt]
  split
  · exact same
  · exact same
  · exact same
  · dsimp only
    split
    · exact same
    · split
      · exact same
      · exact ⟨_, rfl⟩

theorem keeps_writeAt (object : Object) (position : Nat) (data : Bytes) :
    Keeps fs (fs.writeAt object position data).2 := by
  rw [FileTree.writeAt]
  cases found : fs.node? object.node with
  | none => exact .refl fs
  | some node =>
      apply keeps_adjust
      intro node' found'
      rw [found, Option.some.injEq] at found'
      subst found'
      obtain ⟨contents, written⟩ := exists_withData_writeAt node fs.granted position data
      rw [written]
      exact ⟨rfl, rfl, rfl⟩

theorem extends_release (object : Object) : Extends fs (fs.release object) :=
  extends_adjust fun _ _ => ⟨Node.inode_purge, Node.kind_purge⟩

/-- A release is counted by the node of the object and by no other. -/
theorem releasesAt_release (named : fs.Names object) (id : NodeId) :
    (fs.release object).releasesAt id =
      fs.releasesAt id + if object.node = id then 1 else 0 := by
  obtain ⟨node, found, _, _⟩ := named
  rw [releasesAt, release, node?_adjust, releasesAt]
  by_cases here : object.node = id
  · subst here
    rw [if_pos rfl, if_pos rfl, found]
    exact Node.releases_purge
  · rw [if_neg here, if_neg here, Nat.add_zero]

/-- Whoever administers the tree keeps its nodes. -/
theorem keeps_after (request : Change) : Keeps fs (fs.after request) := by
  rcases after_cases fs request with same | changed
  · rw [same]
    exact .refl fs
  · generalize fs.after request = later at changed ⊢
    cases changed with
    | created created => exact created.keeps
    | filled created data => exact created.keeps.trans (keeps_withData data)
    | moved directory => exact .of_nodes rfl
    | unlinked removed => exact keeps_unlink removed

end FileTree

end OpenFiles
