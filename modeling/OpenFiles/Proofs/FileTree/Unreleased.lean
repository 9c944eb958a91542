import OpenFiles.Proofs.FileTree.Paths
import OpenFiles.Proofs.Service.Closing

/-!
# Trees without their history of releases

Releases are counted by the nodes, and a release may drop the contents of a node
whose path is gone. No other request asks for the counts. So the answers to opens,
reads and writes do not depend on what was released, as long as paths are not
removed: `unreleased` forgets the counts, and every request goes through it.
-/

namespace OpenFiles

namespace Node

/-- The node as if none of its objects had been released. -/
def unreleased (node : Node) : Node := { node with releases := 0 }

theorem readAt_unreleased (node : Node) (position length : Nat) :
    node.unreleased.readAt position length = node.readAt position length := rfl

theorem writeAt_unreleased (node : Node) (granted position : Nat) (data : Bytes) :
    node.unreleased.writeAt granted position data =
      ((node.writeAt granted position data).1,
        (node.writeAt granted position data).2.unreleased) := by
  unfold writeAt
  have kind : node.unreleased.kind = node.kind := rfl
  have length : node.unreleased.data.length = node.data.length := rfl
  rw [kind]
  split
  · rfl
  · rfl
  · rfl
  · simp only [length]
    split
    · rfl
    · split <;> rfl

/-- The release of a node whose path is there is only counted. -/
theorem unreleased_afterRelease {node : Node} (there : node.removed = false) :
    node.afterRelease.unreleased = node.unreleased := by
  have kept : ¬ (node.removed = true ∧ node.opens ≤ node.releases + 1) := by
    rintro ⟨removed, _⟩
    rw [there] at removed
    cases removed
  rw [afterRelease, purge, if_neg kept]
  rfl

end Node

namespace FileTree

variable {fs gs later : FileTree} {id : NodeId} {object : Object}

def unreleased (fs : FileTree) : FileTree := { fs with nodes := fs.nodes.map Node.unreleased }

theorem node?_unreleased (id : NodeId) :
    fs.unreleased.node? id = (fs.node? id).map Node.unreleased :=
  List.getElem?_map

theorem kindOf_unreleased (id : NodeId) : fs.unreleased.kindOf id = fs.kindOf id := by
  rw [kindOf, node?_unreleased, Option.map_map]
  rfl

theorem unreleased_adjust {f g : Node → Node}
    (same : ∀ node, fs.node? id = some node → (f node).unreleased = g node.unreleased) :
    (fs.adjust id f).unreleased = fs.unreleased.adjust id g := by
  have nodes : (fs.nodes.modify id.index f).map Node.unreleased =
      (fs.nodes.map Node.unreleased).modify id.index g := by
    apply List.ext_getElem?
    intro index
    simp only [List.getElem?_map, List.getElem?_modify]
    by_cases here : id.index = index
    · subst here
      cases found : fs.nodes[id.index]? with
      | none => rfl
      | some node => simpa using same node found
    · simp [here]
  simp only [unreleased, adjust, nodes]

/-- A change that forgetting undoes was no change. -/
theorem unreleased_adjust_self {f : Node → Node}
    (same : ∀ node, fs.node? id = some node → (f node).unreleased = node.unreleased) :
    (fs.adjust id f).unreleased = fs.unreleased := by
  refine (unreleased_adjust (g := fun node => node) same).trans ?_
  simp only [adjust]
  have nodes : fs.unreleased.nodes.modify id.index (fun node => node) = fs.unreleased.nodes :=
    List.modify_id ..
  rw [nodes]

theorem addNode_unreleased (kind : FileKind) (permission : UInt32) :
    fs.unreleased.addNode kind permission =
      ((fs.addNode kind permission).1, (fs.addNode kind permission).2.unreleased) := by
  simp [addNode, unreleased, Node.unreleased, Node.fresh]

theorem createAt_unreleased (path : Path) (kind : FileKind) (permission : UInt32) :
    fs.unreleased.createAt path kind permission =
      (fs.createAt path kind permission).map fun (id, grown) => (id, grown.unreleased) := by
  have tree : fs.unreleased.tree = fs.tree := rfl
  rw [createAt_eq, createAt_eq]
  unfold lookup
  simp only [kindOf_unreleased, addNode_unreleased, tree]
  split
  · rfl
  · split
    · rfl
    · split <;> rfl

theorem locate_unreleased (text : String) (create exclusive : Bool) (permission : UInt32) :
    fs.unreleased.locate text create exclusive permission =
      (fs.locate text create exclusive permission).map
        fun (id, grown) => (id, grown.unreleased) := by
  have path : fs.unreleased.pathOf text = fs.pathOf text := rfl
  have tree : fs.unreleased.tree = fs.tree := rfl
  rw [locate_eq, locate_eq, path, tree]
  cases fs.pathOf text with
  | error reason => rfl
  | ok path =>
      simp only [bind, Except.bind, createAt_unreleased]
      split
      · split <;> rfl
      · split <;> rfl

theorem openPath_unreleased (text : String) (flags : OpenFlags) (permission : UInt32) :
    fs.unreleased.openPath text flags permission =
      (fs.openPath text flags permission).map
        fun (object, after) => (object, after.unreleased) := by
  rw [openPath_eq, openPath_eq, locate_unreleased]
  cases flags.openMode with
  | error reason => rfl
  | ok mode =>
      cases fs.locate text flags.create flags.exclusive permission with
      | error reason => rfl
      | ok located =>
          obtain ⟨id, grown⟩ := located
          simp only [bind, Except.bind, Except.map, Except.mapError, node?_unreleased]
          cases grown.node? id with
          | none => rfl
          | some node =>
              have kind : node.unreleased.kind = node.kind := rfl
              have inode : node.unreleased.inode = node.inode := rfl
              simp only [Option.map_some, kind, inode]
              split
              · rfl
              · simp only [Except.ok.injEq, Prod.mk.injEq, true_and]
                rw [unreleased_adjust (g := Node.afterOpen) fun _ _ => rfl]
                split
                · rw [unreleased_adjust (g := (·.withData [])) fun _ _ => rfl]
                · rfl

theorem openObject_unreleased (text : String) (flags : OpenFlags) (permission : UInt32) :
    openObject text flags permission fs.unreleased =
      ((openObject text flags permission fs).1,
        (openObject text flags permission fs).2.unreleased) := by
  rw [openObject_eq, openPath_unreleased, openObject_eq]
  cases fs.openPath text flags permission <;> rfl

theorem readAt_unreleased (object : Object) (position length : Nat) :
    readAt object position length fs.unreleased = readAt object position length fs := by
  rw [readAt, node?_unreleased, readAt]
  cases fs.node? object.node with
  | none => rfl
  | some node => exact node.readAt_unreleased position length

theorem sizeOf_unreleased (object : Object) : sizeOf object fs.unreleased = sizeOf object fs := by
  rw [sizeOf, node?_unreleased, sizeOf]
  cases fs.node? object.node <;> rfl

theorem writeAt_unreleased (object : Object) (position : Nat) (data : Bytes) :
    fs.unreleased.writeAt object position data =
      ((fs.writeAt object position data).1, (fs.writeAt object position data).2.unreleased) := by
  unfold FileTree.writeAt
  rw [node?_unreleased]
  cases fs.node? object.node with
  | none => rfl
  | some node =>
      have granted : fs.unreleased.granted = fs.granted := rfl
      have written :
          (fs.adjust object.node fun _ => (node.writeAt fs.granted position data).2).unreleased =
            fs.unreleased.adjust object.node fun _ =>
              (node.writeAt fs.granted position data).2.unreleased :=
        unreleased_adjust fun _ _ => rfl
      simp only [Option.map_some, Node.writeAt_unreleased, granted, written]

theorem unreleased_release (present : fs.Present object.node) :
    (fs.release object).unreleased = fs.unreleased := by
  obtain ⟨node, found, there⟩ := present
  apply unreleased_adjust_self
  intro node' found'
  rw [found, Option.some.injEq] at found'
  subst found'
  exact Node.unreleased_afterRelease there

theorem unreleased_releaseAll {gone : List Object}
    (present : ∀ object ∈ gone, fs.Present object.node) :
    (releaseAll gone fs).unreleased = fs.unreleased ∧ Spares fs (releaseAll gone fs) := by
  induction gone generalizing fs with
  | nil => exact ⟨rfl, .refl fs⟩
  | cons object gone ih =>
      have spared : Spares fs (fs.release object) := spares_release object
      have remains : ∀ other ∈ gone, (fs.release object).Present other.node :=
        fun other member =>
          spared.present other.node (present other (List.mem_cons_of_mem _ member))
      obtain ⟨same, later⟩ := ih remains
      exact ⟨same.trans (unreleased_release (present object List.mem_cons_self)),
        spared.trans later⟩

def Alike (fs gs : FileTree) : Prop := fs.unreleased = gs.unreleased

/-- Opens do not depend on what was released. -/
theorem Alike.openObject (alike : Alike fs gs) (text : String) (flags : OpenFlags)
    (permission : UInt32) :
    (FileTree.openObject text flags permission fs).1 =
        (FileTree.openObject text flags permission gs).1 ∧
      Alike (FileTree.openObject text flags permission fs).2
        (FileTree.openObject text flags permission gs).2 := by
  have left : FileTree.openObject text flags permission fs.unreleased = _ :=
    openObject_unreleased text flags permission
  have right : FileTree.openObject text flags permission gs.unreleased = _ :=
    openObject_unreleased text flags permission
  rw [alike, right, Prod.mk.injEq] at left
  exact ⟨left.1.symm, left.2.symm⟩

theorem Alike.readAt (alike : Alike fs gs) (object : Object) (position length : Nat) :
    FileTree.readAt object position length fs = FileTree.readAt object position length gs := by
  rw [← readAt_unreleased, alike, readAt_unreleased]

theorem Alike.sizeOf (alike : Alike fs gs) (object : Object) :
    FileTree.sizeOf object fs = FileTree.sizeOf object gs := by
  rw [← sizeOf_unreleased, alike, sizeOf_unreleased]

theorem Alike.writeAt (alike : Alike fs gs) (object : Object) (position : Nat) (data : Bytes) :
    (FileTree.writeAt object position data fs).1 = (FileTree.writeAt object position data gs).1 ∧
      Alike (FileTree.writeAt object position data fs).2
        (FileTree.writeAt object position data gs).2 := by
  have left : FileTree.writeAt object position data fs.unreleased = _ :=
    writeAt_unreleased object position data
  have right : FileTree.writeAt object position data gs.unreleased = _ :=
    writeAt_unreleased object position data
  rw [alike, right, Prod.mk.injEq] at left
  exact ⟨left.1.symm, left.2.symm⟩

end FileTree

end OpenFiles
