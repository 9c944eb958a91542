import OpenFiles.OrderedMap.Lemmas
import OpenFiles.Proofs.FileTree.Nodes

/-!
# Paths and the nodes they lead to

A node is `Present` from its creation until its path is removed. Whatever was asked
of a tree since it was new, its paths lead to present nodes, and no two of them to the
same one: otherwise the removal of one path would leave the other with a node that
is marked as removed. Opens, writes and releases take no node away.
-/

namespace OpenFiles

namespace FileTree

variable {fs middle later : FileTree} {id : NodeId} {object : Object} {path : Path}

/-- The node in a row is there, and its path has not been removed. -/
def Present (fs : FileTree) (id : NodeId) : Prop :=
  ∃ node, fs.node? id = some node ∧ node.removed = false

/-- Present nodes stay present, and the paths are left alone. -/
structure Spares (fs later : FileTree) : Prop where
  present : ∀ id, fs.Present id → later.Present id
  tree : later.tree = fs.tree

/-- Paths lead to present nodes, each to one of its own. -/
structure Linked (fs : FileTree) : Prop where
  present : ∀ path id, fs.tree.get? path = some id → fs.Present id
  apart : ∀ path path' id, fs.tree.get? path = some id → fs.tree.get? path' = some id → path = path'

theorem Spares.refl (fs : FileTree) : Spares fs fs := ⟨fun _ present => present, rfl⟩

theorem Spares.trans (first : Spares fs middle) (second : Spares middle later) :
    Spares fs later :=
  ⟨fun id present => second.present id (first.present id present), second.tree.trans first.tree⟩

theorem Spares.linked (spares : Spares fs later) (linked : fs.Linked) : later.Linked where
  present path id leads := by
    rw [spares.tree] at leads
    exact spares.present id (linked.present path id leads)
  apart path path' id leads leads' := by
    rw [spares.tree] at leads leads'
    exact linked.apart path path' id leads leads'

theorem Present.not_vacant (present : fs.Present id) : fs.node? id ≠ none := by
  obtain ⟨node, found, _⟩ := present
  rw [found]
  exact Option.some_ne_none node

theorem spares_adjust {f : Node → Node} (kept : ∀ node, (f node).removed = node.removed) :
    Spares fs (fs.adjust id f) := by
  refine ⟨?_, rfl⟩
  intro other present
  obtain ⟨node, found, there⟩ := present
  rw [Present, node?_adjust]
  by_cases here : id = other
  · exact ⟨f node, by rw [if_pos here, found]; rfl, (kept node).trans there⟩
  · exact ⟨node, by rw [if_neg here, found], there⟩

theorem spares_release (object : Object) : Spares fs (fs.release object) :=
  spares_adjust fun _ => Node.removed_purge

theorem spares_writeAt (object : Object) (position : Nat) (data : Bytes) :
    Spares fs (fs.writeAt object position data).2 := by
  rw [FileTree.writeAt]
  cases found : fs.node? object.node with
  | none => exact .refl fs
  | some node =>
      refine ⟨?_, rfl⟩
      intro other present
      obtain ⟨contents, written⟩ := exists_withData_writeAt node fs.granted position data
      obtain ⟨node', found', there⟩ := present
      rw [Present, node?_adjust]
      by_cases here : object.node = other
      · subst here
        rw [found, Option.some.injEq] at found'
        subst found'
        exact ⟨_, by rw [if_pos rfl, found]; rfl, by rw [written]; exact there⟩
      · exact ⟨node', by rw [if_neg here, found'], there⟩

/-- A path to a node that was not present before is the only one that leads to it. -/
theorem Linked.insert (linked : fs.Linked) (tree : later.tree = fs.tree.insert path id)
    (vacant : ¬ fs.Present id) (present : ∀ other, fs.Present other → later.Present other)
    (here : later.Present id) : later.Linked where
  present path' other leads := by
    rw [tree, OrderedMap.get?_insert] at leads
    split at leads
    · cases leads
      exact here
    · exact present other (linked.present path' other leads)
  apart first second other leads leads' := by
    have elsewhere : ∀ path', fs.tree.get? path' = some other → id ≠ other := by
      rintro path' before rfl
      exact vacant (linked.present path' id before)
    rw [tree, OrderedMap.get?_insert] at leads leads'
    split at leads
    · rename_i one
      split at leads'
      · rename_i two
        exact one.symm.trans two
      · exact absurd (Option.some.inj leads) (elsewhere second leads')
    · split at leads'
      · exact absurd (Option.some.inj leads') (elsewhere first leads)
      · exact linked.apart first second other leads leads'

/-- What is left after a path was removed, and its node marked. -/
theorem Linked.erase {f : Node → Node} (linked : fs.Linked) (leads : fs.tree.get? path = some id) :
    (FileTree.adjust { fs with tree := fs.tree.erase path } id f).Linked where
  present path' other leads' := by
    rw [tree_adjust, OrderedMap.get?_erase] at leads'
    split at leads'
    · cases leads'
    · rename_i apart
      have elsewhere : id ≠ other := by
        rintro rfl
        exact apart (linked.apart path path' id leads leads')
      obtain ⟨node, found, there⟩ := linked.present path' other leads'
      refine ⟨node, ?_, there⟩
      rw [node?_adjust, if_neg elsewhere]
      exact found
  apart first second other leads leads' := by
    rw [tree_adjust, OrderedMap.get?_erase] at leads leads'
    split at leads
    · cases leads
    · split at leads'
      · cases leads'
      · exact linked.apart first second other leads leads'

theorem present_addNode (kind : FileKind) (permission : UInt32) :
    (fs.addNode kind permission).2.Present (fs.addNode kind permission).1 ∧
      ∀ id, fs.Present id → (fs.addNode kind permission).2.Present id := by
  have look : ∀ id, (fs.addNode kind permission).2.node? id = _ := node?_addNode kind permission
  refine ⟨⟨_, by rw [look, if_pos rfl], rfl⟩, ?_⟩
  intro id present
  obtain ⟨node, found, there⟩ := present
  refine ⟨node, ?_, there⟩
  have apart : (fs.addNode kind permission).1 ≠ id := by
    rintro rfl
    rw [node?_addNode_vacant] at found
    cases found
  rw [look, if_neg apart, found]

/-- A created node is present, and so is all that was. -/
theorem Created.linked {kind : FileKind} {permission : UInt32} (linked : fs.Linked)
    (created : Created fs path kind permission id later) :
    later.Linked ∧ later.Present id ∧ ∀ other, fs.Present other → later.Present other := by
  obtain ⟨_, _, rfl, rfl⟩ := created
  have both : (fs.addNode kind permission).2.Present _ ∧ _ := present_addNode kind permission
  obtain ⟨here, present⟩ := both
  have vacant : ¬ fs.Present (fs.addNode kind permission).1 :=
    fun before => before.not_vacant (node?_addNode_vacant kind permission)
  exact ⟨linked.insert rfl vacant present here, here, present⟩

/-- Text leads to a present node. -/
theorem linked_locate {text : String} {create exclusive : Bool} {permission : UInt32}
    (linked : fs.Linked) (located : fs.locate text create exclusive permission = .ok (id, later)) :
    later.Linked ∧ later.Present id ∧ ∀ other, fs.Present other → later.Present other := by
  obtain ⟨path, _, ⟨leads, rfl⟩ | created⟩ := located_or_created located
  · exact ⟨linked, linked.present path id leads, fun _ present => present⟩
  · exact created.linked linked

/-- What a path was opened for is present. -/
theorem linked_openPath {text : String} {flags : OpenFlags} {permission : UInt32}
    (linked : fs.Linked) (opened : fs.openPath text flags permission = .ok (object, later)) :
    later.Linked ∧ later.Present object.node ∧ ∀ other, fs.Present other → later.Present other := by
  obtain ⟨grown, node, mode, _, located, _, _, _, after⟩ := opened_of_openPath opened
  obtain ⟨linkedGrown, there, present⟩ := linked_locate linked located
  have emptied : Spares grown (if node.kind = .regular ∧ flags.truncate ∧ mode.writable then
      grown.adjust object.node (·.withData []) else grown) := by
    split
    · exact spares_adjust fun _ => rfl
    · exact .refl grown
  have counted : Spares grown later := by
    rw [after]
    exact emptied.trans (spares_adjust fun _ => rfl)
  exact ⟨counted.linked linkedGrown, counted.present object.node there,
    fun other before => counted.present other (present other before)⟩

theorem linked_unlink {text : String} (linked : fs.Linked) (removed : fs.unlink text = .ok later) :
    later.Linked := by
  obtain ⟨path, id, _, leads, rfl⟩ := removed_of_unlink removed
  exact linked.erase leads

/-- Whoever administers the tree keeps its paths in order. -/
theorem linked_after (linked : fs.Linked) (request : Change) : (fs.after request).Linked := by
  rcases after_cases fs request with same | changed
  · rw [same]
    exact linked
  · generalize fs.after request = later at changed ⊢
    cases changed with
    | created created => exact (created.linked linked).1
    | @filled path permission id grown created data =>
        have filled : Spares grown (grown.adjust id (·.withData data)) := spares_adjust fun _ => rfl
        exact filled.linked (created.linked linked).1
    | moved directory => exact ⟨linked.present, linked.apart⟩
    | unlinked removed => exact linked_unlink linked removed

theorem linked_foldl_after (linked : fs.Linked) (requests : List Change) :
    (requests.foldl after fs).Linked := by
  induction requests generalizing fs with
  | nil => exact linked
  | cons request rest ih => exact ih (linked_after linked request)

/-- The trees that come from a new one by requests of any kind. -/
inductive Reached : FileTree → Prop
  | initial : Reached initial
  | changed {fs : FileTree} (reached : Reached fs) (request : Change) : Reached (fs.after request)
  | opened {fs : FileTree} (reached : Reached fs) (text : String) (flags : OpenFlags)
      (permission : UInt32) : Reached (openObject text flags permission fs).2
  | removed {fs : FileTree} (reached : Reached fs) (text : String) : Reached (fs.removePath text).2
  | written {fs : FileTree} (reached : Reached fs) (object : Object) (position : Nat)
      (data : Bytes) : Reached (fs.writeAt object position data).2
  | released {fs : FileTree} (reached : Reached fs) (object : Object) : Reached (fs.release object)
  | limited {fs : FileTree} (reached : Reached fs) (bytes : Nat) : Reached (fs.withGranted bytes)

theorem linked_bare : bare.Linked where
  present path id leads := by
    have root : bare.tree.get? path = if Path.root = path then some ⟨0⟩ else none :=
      OrderedMap.get?_insert _ _ _ _
    rw [root] at leads
    split at leads
    · cases leads
      exact ⟨_, rfl, rfl⟩
    · cases leads
  apart first second id leads leads' := by
    have root (path : Path) : bare.tree.get? path = if Path.root = path then some ⟨0⟩ else none :=
      OrderedMap.get?_insert _ _ _ _
    rw [root] at leads leads'
    split at leads
    · rename_i one
      split at leads'
      · rename_i two
        exact one.symm.trans two
      · cases leads'
    · cases leads

/-- The paths of a tree are in order at all times. -/
theorem Reached.linked (reached : fs.Reached) : fs.Linked := by
  induction reached with
  | initial => exact linked_foldl_after linked_bare _
  | changed reached request ih => exact linked_after ih request
  | @opened fs reached text flags permission ih =>
      cases answer : openObject text flags permission fs with
      | mk verdict later =>
          cases verdict with
          | ok object => exact (linked_openPath ih (openPath_of_openObject answer)).1
          | error reason => exact eq_of_openObject answer ▸ ih
  | @removed fs reached text ih =>
      rcases removePath_cases fs text with same | removed
      · rw [same]
        exact ih
      · exact linked_unlink ih removed
  | written reached object position data ih => exact (spares_writeAt object position data).linked ih
  | released reached object ih => exact (spares_release object).linked ih
  | limited reached bytes ih => exact ⟨ih.present, ih.apart⟩

end FileTree

end OpenFiles
