import OpenFiles.Proofs.FileTree.Paths

/-!
# The steps that requests to a tree are made of

Every request of a tree comes down to a few steps: a node is created at a path, a node is
changed in its row, the working directory moves, a path is removed. Besides, memory may come to
grant more or less. What holds of a bare tree and survives each step holds of every tree:
`Reached.induction`.
-/

namespace OpenFiles

namespace FileTree

variable {fs later : FileTree} {object : Object}

/-- A single step of a request. Nodes keep their numbers and kinds when they are changed, and
every path that is used is named by a text. -/
inductive Step (fs : FileTree) : FileTree → Prop
  | created {path : Path} {kind : FileKind} {permission : UInt32} {id : NodeId}
      {later : FileTree} (created : Created fs path kind permission id later)
      (named : ∃ text, fs.pathOf text = .ok path) : Step fs later
  | adjusted (id : NodeId) (f : Node → Node) (kept : ∀ node, fs.node? id = some node →
      (f node).inode = node.inode ∧ (f node).kind = node.kind) : Step fs (fs.adjust id f)
  | moved (directory : Path) (named : ∃ text, fs.pathOf text = .ok directory) :
      Step fs { fs with directory := directory }
  | unlinked {text : String} {later : FileTree} (removed : fs.unlink text = .ok later) :
      Step fs later
  | limited (bytes : Nat) : Step fs (fs.withGranted bytes)

theorem Reached.foldl_after (reached : fs.Reached) (requests : List Change) :
    (requests.foldl FileTree.after fs).Reached := by
  induction requests generalizing fs with
  | nil => exact reached
  | cons request rest ih => exact ih (reached.changed request)

section

variable {P : FileTree → Prop} (keeps : ∀ fs later, Step fs later → P fs → P later)

include keeps

theorem after_induction (holds : P fs) (request : Change) : P (fs.after request) := by
  rcases after_cases fs request with same | changed
  · rw [same]
    exact holds
  · generalize fs.after request = later at changed ⊢
    cases changed with
    | created created named => exact keeps _ _ (.created created named) holds
    | @filled path permission id grown created data named =>
        have grown := keeps _ _ (.created created named) holds
        exact keeps _ _ (.adjusted id (·.withData data) fun _ _ => ⟨rfl, rfl⟩) grown
    | moved directory named => exact keeps _ _ (.moved directory named) holds
    | unlinked removed => exact keeps _ _ (.unlinked removed) holds

theorem foldl_after_induction (holds : P fs) (requests : List Change) :
    P (requests.foldl after fs) := by
  induction requests generalizing fs with
  | nil => exact holds
  | cons request rest ih => exact ih (after_induction keeps holds request)

/-- An open may create the file it opens, and may empty it, and counts the open. -/
theorem openPath_induction {text : String} {flags : OpenFlags} {permission : UInt32}
    (holds : P fs) (opened : fs.openPath text flags permission = .ok (object, later)) :
    P later := by
  obtain ⟨grown, node, mode, _, located, _, _, _, rfl⟩ := opened_of_openPath opened
  have found : P grown := by
    obtain ⟨path, named, ⟨_, rfl⟩ | created⟩ := located_or_created located
    · exact holds
    · exact keeps _ _ (.created created ⟨text, named⟩) holds
  refine keeps _ _ (.adjusted object.node Node.afterOpen fun _ _ => ⟨rfl, rfl⟩) ?_
  split
  · exact keeps _ _ (.adjusted object.node (·.withData []) fun _ _ => ⟨rfl, rfl⟩) found
  · exact found

theorem writeAt_induction (holds : P fs) (object : Object) (position : Nat) (data : Bytes) :
    P (fs.writeAt object position data).2 := by
  rw [writeAt]
  cases found : fs.node? object.node with
  | none => exact holds
  | some node =>
      refine keeps _ _ (.adjusted object.node
        (fun _ => (node.writeAt fs.granted position data).2) ?_) holds
      intro node' found'
      obtain ⟨contents, written⟩ := exists_withData_writeAt node fs.granted position data
      rw [found, Option.some.injEq] at found'
      rw [written, found']
      exact ⟨rfl, rfl⟩

/-- What holds of a bare tree and survives every step holds of every tree. -/
theorem Reached.induction (bare : P bare) (reached : fs.Reached) : P fs := by
  induction reached with
  | initial => exact foldl_after_induction keeps bare _
  | changed reached request ih => exact after_induction keeps ih request
  | @opened fs reached text flags permission ih =>
      cases answer : openObject text flags permission fs with
      | mk verdict later =>
          cases verdict with
          | ok object => exact openPath_induction keeps ih (openPath_of_openObject answer)
          | error reason => exact eq_of_openObject answer ▸ ih
  | @removed fs reached text ih =>
      rcases removePath_cases fs text with same | removed
      · rw [same]
        exact ih
      · exact keeps _ _ (.unlinked removed) ih
  | written reached object position data ih => exact writeAt_induction keeps ih object position data
  | @released fs reached object ih =>
      refine keeps _ _ (.adjusted object.node Node.afterRelease ?_) ih
      exact fun _ _ => ⟨Node.inode_purge, Node.kind_purge⟩
  | limited reached bytes ih => exact keeps _ _ (.limited bytes) ih

end

end FileTree

end OpenFiles
