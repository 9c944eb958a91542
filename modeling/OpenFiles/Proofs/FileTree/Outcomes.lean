import OpenFiles.FileTree.Storage
import OpenFiles.OrderedMap.Lemmas

/-!
# What the requests to a tree do

Each theorem opens one request of the tree and says what the request does once it is
granted. What becomes of nodes and of paths is derived from that, without another
look at the order in which the request checks and refuses.
-/

namespace OpenFiles

section Except

variable {ε ε' α β : Type}

/-- A computation that answers has answered in each of its steps. -/
theorem exists_ok_of_bind {first : Except ε α} {next : α → Except ε β} {answer : β}
    (success : (first >>= next) = .ok answer) :
    ∃ value, first = .ok value ∧ next value = .ok answer := by
  cases first with
  | error reason => cases success
  | ok value => exact ⟨value, rfl, success⟩

theorem ok_of_mapError {first : Except ε α} {f : ε → ε'} {answer : α}
    (success : first.mapError f = .ok answer) : first = .ok answer := by
  cases first with
  | error reason => cases success
  | ok value =>
      cases success
      rfl

theorem exists_ok_of_map {first : Except ε α} {f : α → β} {answer : β}
    (success : first.map f = .ok answer) : ∃ value, first = .ok value ∧ f value = answer := by
  cases first with
  | error reason => cases success
  | ok value =>
      cases success
      exact ⟨value, rfl, rfl⟩

end Except

namespace FileTree

variable {fs later : FileTree} {id : NodeId} {object : Object} {path : Path} {text : String}
variable {kind : FileKind} {permission : UInt32} {flags : OpenFlags}

theorem lookup_eq_ok_iff : fs.lookup path = .ok id ↔ fs.tree.get? path = some id := by
  rw [lookup]
  cases fs.tree.get? path <;> simp

/-- What creating a node at a path does: the node gets a row of its own, and the path,
which led nowhere, leads there. -/
structure Created (fs : FileTree) (path : Path) (kind : FileKind) (permission : UInt32)
    (id : NodeId) (later : FileTree) : Prop where
  vacant : path ∉ fs.tree
  parent : ∃ above, fs.lookup path.parent = .ok above ∧ fs.kindOf above = some .directory
  row : id = (fs.addNode kind permission).1
  grown : later = { (fs.addNode kind permission).2 with tree := fs.tree.insert path id }

theorem created_of_createAt (created : fs.createAt path kind permission = .ok (id, later)) :
    Created fs path kind permission id later := by
  rw [createAt_eq] at created
  split at created
  · cases created
  · rename_i vacant
    split at created
    · cases created
    · rename_i above known
      split at created
      · rename_i directory
        cases created
        exact ⟨mt OrderedMap.contains_iff.mpr vacant, ⟨above, known, directory⟩, rfl, rfl⟩
      · cases created

/-- A node is created at every path that leads nowhere yet and goes on from a directory. -/
theorem Created.createAt_eq (created : Created fs path kind permission id later) :
    fs.createAt path kind permission = .ok (id, later) := by
  obtain ⟨vacant, ⟨above, known, directory⟩, rfl, rfl⟩ := created
  have absent : ¬ fs.tree.contains path = true := mt OrderedMap.contains_iff.mp vacant
  rw [createAt_eq, if_neg absent, known]
  exact if_pos directory

theorem created_of_create (created : fs.create text kind permission = .ok (id, later)) :
    ∃ path, fs.pathOf text = .ok path ∧ Created fs path kind permission id later := by
  rw [create_eq] at created
  obtain ⟨path, named, rest⟩ := exists_ok_of_bind created
  exact ⟨path, named, created_of_createAt rest⟩

/-- Text leads to a row, or a regular file is created for it. -/
theorem located_or_created {create exclusive : Bool}
    (located : fs.locate text create exclusive permission = .ok (id, later)) :
    ∃ path, fs.pathOf text = .ok path ∧
      (fs.tree.get? path = some id ∧ later = fs ∨
        Created fs path .regular permission id later) := by
  rw [locate_eq] at located
  obtain ⟨path, named, rest⟩ := exists_ok_of_bind located
  refine ⟨path, named, ?_⟩
  split at rest
  · rename_i row leads
    split at rest
    · cases rest
    · cases rest
      exact .inl ⟨leads, rfl⟩
  · split at rest
    · exact .inr (created_of_createAt rest)
    · cases rest

/-- An open that is granted locates a node, may empty it, and counts the open. -/
theorem opened_of_openPath (opened : fs.openPath text flags permission = .ok (object, later)) :
    ∃ (grown : FileTree) (node : Node) (mode : OpenMode), flags.openMode = .ok mode ∧
      fs.locate text flags.create flags.exclusive permission = .ok (object.node, grown) ∧
      grown.node? object.node = some node ∧ node.inode = object.inode ∧
      node.kind = object.kind ∧
      later = (if node.kind = .regular ∧ flags.truncate ∧ mode.writable then
        grown.adjust object.node (·.withData []) else grown).adjust object.node Node.afterOpen := by
  rw [openPath_eq] at opened
  obtain ⟨mode, asked, rest⟩ := exists_ok_of_bind opened
  obtain ⟨⟨id, grown⟩, located, rest⟩ := exists_ok_of_bind rest
  dsimp only at rest
  split at rest
  · cases rest
  · rename_i node found
    split at rest
    · cases rest
    · cases rest
      exact ⟨grown, node, mode, asked, ok_of_mapError located, found, rfl, rfl, rfl⟩

theorem openPath_of_openObject
    (opened : openObject text flags permission fs = (.ok object, later)) :
    fs.openPath text flags permission = .ok (object, later) := by
  rw [openObject_eq] at opened
  cases answer : fs.openPath text flags permission with
  | error reason =>
      rw [answer] at opened
      cases opened
  | ok success =>
      rw [answer] at opened
      cases opened
      rfl

/-- A refused open leaves the tree as it was. -/
theorem eq_of_openObject {reason : Error}
    (refused : openObject text flags permission fs = (.error reason, later)) : later = fs := by
  rw [openObject_eq] at refused
  cases answer : fs.openPath text flags permission with
  | error reason =>
      rw [answer] at refused
      cases refused
      rfl
  | ok success =>
      rw [answer] at refused
      cases refused

/-- A removal is granted for a path other than the root that leads somewhere, unless that is a
directory with something below it. -/
theorem unlink_eq_ok_iff : fs.unlink text = .ok later ↔
    ∃ path id, fs.pathOf text = .ok path ∧ path ≠ Path.root ∧ fs.tree.get? path = some id ∧
      ¬ (fs.kindOf id = some .directory ∧ fs.tree.keys.any (·.isBelow path) = true) ∧
      later = FileTree.adjust { fs with tree := fs.tree.erase path } id Node.afterRemoval := by
  constructor
  · intro removed
    rw [unlink_eq] at removed
    obtain ⟨path, named, rest⟩ := exists_ok_of_bind removed
    split at rest
    · cases rest
    · rename_i below
      obtain ⟨id, found, rest⟩ := exists_ok_of_bind rest
      split at rest
      · cases rest
      · rename_i bare
        cases rest
        exact ⟨path, id, named, below, lookup_eq_ok_iff.mp found, bare, rfl⟩
  · rintro ⟨path, id, named, below, leads, bare, rfl⟩
    have found := lookup_eq_ok_iff.mpr leads
    simp only [unlink_eq, named, found, bind, Except.bind, if_neg below, if_neg bare]

/-- A removal takes a path away and marks the node it led to. -/
theorem removed_of_unlink (removed : fs.unlink text = .ok later) :
    ∃ path id, path ≠ Path.root ∧ fs.tree.get? path = some id ∧
      later = FileTree.adjust { fs with tree := fs.tree.erase path } id Node.afterRemoval := by
  obtain ⟨path, id, _, below, leads, _, after⟩ := unlink_eq_ok_iff.mp removed
  exact ⟨path, id, below, leads, after⟩

theorem removePath_cases (fs : FileTree) (text : String) :
    (fs.removePath text).2 = fs ∨ fs.unlink text = .ok (fs.removePath text).2 := by
  rw [removePath_eq]
  cases fs.unlink text with
  | error reason => exact .inl rfl
  | ok later => exact .inr rfl

/-- What the requests of whoever administers the tree do. Every path they use is named by a
text. -/
inductive Changed (fs : FileTree) : FileTree → Prop
  | created {path : Path} {kind : FileKind} {permission : UInt32} {id : NodeId}
      {later : FileTree} (created : Created fs path kind permission id later)
      (named : ∃ text, fs.pathOf text = .ok path) : Changed fs later
  | filled {path : Path} {permission : UInt32} {id : NodeId} {grown : FileTree}
      (created : Created fs path .regular permission id grown) (data : Bytes)
      (named : ∃ text, fs.pathOf text = .ok path) :
      Changed fs (grown.adjust id (·.withData data))
  | moved (directory : Path) (named : ∃ text, fs.pathOf text = .ok directory) :
      Changed fs { fs with directory := directory }
  | unlinked {text : String} {later : FileTree} (removed : fs.unlink text = .ok later) :
      Changed fs later

theorem changed_of_change {request : Change} (granted : fs.change request = .ok later) :
    Changed fs later := by
  cases request with
  | makeDirectory text =>
      rw [change_makeDirectory] at granted
      obtain ⟨⟨id, grown⟩, created, rfl⟩ := exists_ok_of_map granted
      obtain ⟨path, named, created⟩ := created_of_create created
      exact .created created ⟨text, named⟩
  | makeNode text kind =>
      rw [change_makeNode] at granted
      obtain ⟨⟨id, grown⟩, created, rfl⟩ := exists_ok_of_map granted
      obtain ⟨path, named, created⟩ := created_of_create created
      exact .created created ⟨text, named⟩
  | createFile text data =>
      rw [change_createFile] at granted
      obtain ⟨⟨id, grown⟩, created, rfl⟩ := exists_ok_of_map granted
      obtain ⟨path, named, created⟩ := created_of_create created
      exact .filled created data ⟨text, named⟩
  | changeDirectory text =>
      rw [← changeDirectory, changeDirectory_eq] at granted
      obtain ⟨path, named, rest⟩ := exists_ok_of_bind granted
      obtain ⟨id, _, rest⟩ := exists_ok_of_bind rest
      split at rest
      · cases rest
        exact .moved path ⟨text, named⟩
      · cases rest
  | unlink text => exact .unlinked granted

theorem after_cases (fs : FileTree) (request : Change) :
    fs.after request = fs ∨ Changed fs (fs.after request) := by
  rw [after_eq]
  cases granted : fs.change request with
  | error reason => exact .inl rfl
  | ok later => exact .inr (changed_of_change granted)

end FileTree

end OpenFiles
