import OpenFiles.Proofs.FileTree.Shape

/-!
# Whether the working directory is there

A tree keeps the path of its working directory and looks at what the path leads to only when
the working directory moves. A removal does not ask whether it takes the working directory
away, so the path that is reported can lead nowhere, or to what was created in its place.

`stands_iff_not_lost` says from the history of a tree alone when that is so: the working
directory was removed, and since then it neither moved nor was a directory made at its path.
-/

namespace OpenFiles

namespace FileTree

variable {fs later : FileTree} {id : NodeId} {path : Path} {text : String} {kind : FileKind}
variable {permission : UInt32}

/-- What can be asked of a tree, by whoever administers it and by the tables. -/
inductive Operation where
  | change (request : Change)
  | openPath (text : String) (flags : OpenFlags) (permission : UInt32)
  | removePath (text : String)
  | writeAt (object : Object) (position : Nat) (data : Bytes)
  | release (object : Object)

def operate (fs : FileTree) : Operation → FileTree
  | .change request => fs.after request
  | .openPath text flags permission => (openObject text flags permission fs).2
  | .removePath text => (fs.removePath text).2
  | .writeAt object position data => (fs.writeAt object position data).2
  | .release object => fs.release object

/-- The working directory is where it is reported: the text of its path is in the tree, with a
directory under it. -/
def Stands (fs : FileTree) : Prop :=
  ∃ text ∈ fs.keys, Storage.workingDirectory fs = .ok text ∧ fs.kindUnder? text = some .directory

def Granted (fs : FileTree) (request : Change) : Prop := ∃ later, fs.change request = .ok later

/-- An operation takes the path of the working directory away. -/
def Removes (fs : FileTree) : Operation → Prop
  | .change (.unlink text) => fs.pathOf text = .ok fs.directory ∧ fs.Granted (.unlink text)
  | .removePath text => fs.pathOf text = .ok fs.directory ∧ fs.Granted (.unlink text)
  | _ => False

/-- An operation moves the working directory, or makes a directory at its path. -/
def Restores (fs : FileTree) : Operation → Prop
  | .change (.changeDirectory text) => fs.Granted (.changeDirectory text)
  | .change (.makeDirectory text) =>
    fs.pathOf text = .ok fs.directory ∧ fs.Granted (.makeDirectory text)
  | .change (.makeNode text kind) =>
    (fs.pathOf text = .ok fs.directory ∧ kind = .directory) ∧ fs.Granted (.makeNode text kind)
  | _ => False

def Unrestored (fs : FileTree) : List Operation → Prop
  | [] => True
  | operation :: rest => ¬ fs.Restores operation ∧ (fs.operate operation).Unrestored rest

/-- Some operation of a history takes the working directory away, and none after it brings it
back. -/
def Lost (fs : FileTree) : List Operation → Prop
  | [] => False
  | operation :: rest =>
    fs.Removes operation ∧ (fs.operate operation).Unrestored rest ∨
      (fs.operate operation).Lost rest

theorem Reached.operate (reached : fs.Reached) (operation : Operation) :
    (fs.operate operation).Reached := by
  cases operation with
  | change request => exact reached.changed request
  | openPath text flags permission => exact reached.opened text flags permission
  | removePath text => exact reached.removed text
  | writeAt object position data => exact reached.written object position data
  | release object => exact reached.released object

def AtDirectory (fs : FileTree) : Prop := fs.kindAt? fs.directory = some .directory

instance (fs : FileTree) : Decidable fs.AtDirectory :=
  inferInstanceAs (Decidable (fs.kindAt? fs.directory = some .directory))

theorem Shaped.stands_iff (shaped : fs.Shaped) : fs.Stands ↔ fs.AtDirectory := by
  have same := shaped.kindUnder?_render shaped.start
  constructor
  · rintro ⟨text, _, reported, directory⟩
    cases reported
    exact same.symm.trans directory
  · intro directory
    refine ⟨fs.directory.render, ?_, rfl, same.trans directory⟩
    exact mem_keys_iff.mpr ⟨fs.directory, mem_of_kindAt? directory, rfl⟩

/-! ### What steps do to the kinds of paths -/

theorem kindAt?_adjust {f : Node → Node}
    (kept : ∀ node, fs.node? id = some node → (f node).kind = node.kind) (path : Path) :
    (fs.adjust id f).kindAt? path = fs.kindAt? path := by
  have kinds (other : NodeId) : (fs.adjust id f).kindOf other = fs.kindOf other := by
    rw [kindOf, kindOf, node?_adjust]
    split
    · rename_i here
      subst here
      cases found : fs.node? id with
      | none => rfl
      | some node => exact congrArg some (kept node found)
    · rfl
  exact congrArg (Option.bind (fs.tree.get? path)) (funext kinds)

theorem kindOf_addNode (kind : FileKind) (permission : UInt32) (other : NodeId) :
    (fs.addNode kind permission).2.kindOf other =
      if (fs.addNode kind permission).1 = other then some kind else fs.kindOf other := by
  rw [kindOf, node?_addNode]
  split <;> rfl

/-- Nothing led to the row of a new node, so only the new path leads to it. -/
theorem Created.kindAt?_eq (created : Created fs path kind permission id later)
    (linked : fs.Linked) (other : Path) :
    later.kindAt? other = if path = other then some kind else fs.kindAt? other := by
  obtain ⟨_, _, rfl, rfl⟩ := created
  have leads : FileTree.kindAt? { (fs.addNode kind permission).2 with
      tree := fs.tree.insert path (fs.addNode kind permission).1 } other =
      (((fs.tree.insert path (fs.addNode kind permission).1).get? other).bind
        (fs.addNode kind permission).2.kindOf) := rfl
  rw [leads, OrderedMap.get?_insert]
  split
  · rw [Option.bind_some, kindOf_addNode, if_pos rfl]
  · cases found : fs.tree.get? other with
    | none => rw [kindAt?, found, Option.bind_none, Option.bind_none]
    | some row =>
        have apart : (fs.addNode kind permission).1 ≠ row := by
          rintro rfl
          exact (linked.present other _ found).not_vacant (node?_addNode_vacant kind permission)
        rw [kindAt?, found, Option.bind_some, Option.bind_some, kindOf_addNode, if_neg apart]

theorem Created.directory_eq (created : Created fs path kind permission id later) :
    later.directory = fs.directory := by
  rw [created.grown]
  rfl

theorem kindAt?_of_unlink (removed : fs.unlink text = .ok later)
    (names : fs.pathOf text = .ok path) (other : Path) :
    later.kindAt? other = if path = other then none else fs.kindAt? other := by
  obtain ⟨path', id, names', _, _, _, rfl⟩ := unlink_eq_ok_iff.mp removed
  cases names.symm.trans names'
  rw [kindAt?_adjust (f := Node.afterRemoval) fun _ _ => Node.kind_purge]
  have leads : FileTree.kindAt? { fs with tree := fs.tree.erase path } other =
      ((fs.tree.erase path).get? other).bind fs.kindOf := rfl
  rw [leads, OrderedMap.get?_erase]
  split <;> rfl

/-- The working directory moves to paths that lead to directories. -/
theorem changeDirectory_eq_ok_iff : fs.changeDirectory text = .ok later ↔
    ∃ path, fs.pathOf text = .ok path ∧ fs.kindAt? path = some .directory ∧
      later = { fs with directory := path } := by
  constructor
  · intro granted
    rw [changeDirectory_eq] at granted
    obtain ⟨path, names, rest⟩ := exists_ok_of_bind granted
    obtain ⟨id, found, rest⟩ := exists_ok_of_bind rest
    split at rest
    · rename_i directory
      cases rest
      exact ⟨path, names, kindAt?_eq_some_iff_lookup.mpr ⟨id, found, directory⟩, rfl⟩
    · cases rest
  · rintro ⟨path, names, there, rfl⟩
    obtain ⟨id, found, directory⟩ := kindAt?_eq_some_iff_lookup.mp there
    simp only [changeDirectory_eq, names, found, bind, Except.bind, if_pos directory]

/-! ### What operations do to the working directory -/

theorem atDirectory_adjust {f : Node → Node}
    (kept : ∀ node, fs.node? id = some node → (f node).kind = node.kind) :
    (fs.adjust id f).AtDirectory ↔ fs.AtDirectory := by
  rw [AtDirectory, kindAt?_adjust kept]
  rfl

theorem Created.atDirectory_iff (created : Created fs path kind permission id later)
    (linked : fs.Linked) :
    later.AtDirectory ↔ path = fs.directory ∧ kind = .directory ∨ fs.AtDirectory := by
  rw [AtDirectory, created.kindAt?_eq linked, created.directory_eq]
  split
  · rename_i here
    subst here
    have nowhere : ¬ fs.AtDirectory := fun there => created.vacant (mem_of_kindAt? there)
    simp only [Option.some.injEq, true_and, nowhere, or_false]
  · rename_i elsewhere
    simp only [elsewhere, false_and, false_or]
    rfl

/-- Creating at a text makes a directory of the working directory if it is one that is created,
and at the path of the working directory. -/
theorem atDirectory_of_create (linked : fs.Linked)
    (created : fs.create text kind permission = .ok (id, later)) :
    later.AtDirectory ↔
      fs.pathOf text = .ok fs.directory ∧ kind = .directory ∨ fs.AtDirectory := by
  obtain ⟨path, names, created⟩ := created_of_create created
  rw [created.atDirectory_iff linked, names, Except.ok.injEq]

theorem atDirectory_of_unlink (removed : fs.unlink text = .ok later) :
    later.AtDirectory ↔ fs.AtDirectory ∧ fs.pathOf text ≠ .ok fs.directory := by
  obtain ⟨path, id, names, _, _, _, grown⟩ := unlink_eq_ok_iff.mp removed
  have directory : later.directory = fs.directory := by
    rw [grown]
    rfl
  rw [AtDirectory, kindAt?_of_unlink removed names, directory, names, ne_eq, Except.ok.injEq]
  split
  · rename_i here
    simp only [here, reduceCtorEq, not_true_eq_false, and_false]
  · rename_i elsewhere
    simp only [elsewhere, not_false_eq_true, and_true]
    rfl

/-- An open creates no directory. -/
theorem atDirectory_of_openPath {object : Object} {flags : OpenFlags} (linked : fs.Linked)
    (opened : fs.openPath text flags permission = .ok (object, later)) :
    later.AtDirectory ↔ fs.AtDirectory := by
  obtain ⟨grown, node, mode, _, located, _, _, _, rfl⟩ := opened_of_openPath opened
  have emptied : (if node.kind = .regular ∧ flags.truncate ∧ mode.writable then
      grown.adjust object.node (·.withData []) else grown).AtDirectory ↔ grown.AtDirectory := by
    split
    · exact atDirectory_adjust fun _ _ => rfl
    · exact Iff.rfl
  refine (atDirectory_adjust (f := Node.afterOpen) fun _ _ => rfl).trans (emptied.trans ?_)
  obtain ⟨path, _, ⟨_, rfl⟩ | created⟩ := located_or_created located
  · exact Iff.rfl
  · rw [created.atDirectory_iff linked]
    simp only [reduceCtorEq, and_false, false_or]

theorem atDirectory_openObject (linked : fs.Linked) (text : String) (flags : OpenFlags)
    (permission : UInt32) :
    (openObject text flags permission fs).2.AtDirectory ↔ fs.AtDirectory := by
  cases answer : openObject text flags permission fs with
  | mk verdict later =>
      cases verdict with
      | ok object => exact atDirectory_of_openPath linked (openPath_of_openObject answer)
      | error reason => rw [eq_of_openObject answer]

theorem atDirectory_writeAt (object : Object) (position : Nat) (data : Bytes) :
    (fs.writeAt object position data).2.AtDirectory ↔ fs.AtDirectory := by
  rw [FileTree.writeAt]
  cases found : fs.node? object.node with
  | none => rfl
  | some node =>
      refine atDirectory_adjust ?_
      intro node' found'
      obtain ⟨contents, written⟩ := exists_withData_writeAt node fs.granted position data
      rw [found, Option.some.injEq] at found'
      rw [written, found']
      rfl

theorem atDirectory_of_create_map {fill : NodeId × FileTree → FileTree} (linked : fs.Linked)
    (kept : ∀ created, (fill created).AtDirectory ↔ created.2.AtDirectory)
    (granted : (fs.create text kind permission).map fill = .ok later) :
    later.AtDirectory ↔
      fs.pathOf text = .ok fs.directory ∧ kind = .directory ∨ fs.AtDirectory := by
  obtain ⟨⟨id, grown⟩, created, rfl⟩ := exists_ok_of_map granted
  rw [kept, atDirectory_of_create linked created]

theorem atDirectory_of_change {request : Change} (linked : fs.Linked)
    (granted : fs.change request = .ok later) :
    later.AtDirectory ↔ fs.Restores (.change request) ∨
      fs.AtDirectory ∧ ¬ fs.Removes (.change request) := by
  have done : fs.Granted request := ⟨later, granted⟩
  cases request with
  | makeDirectory text =>
      rw [change_makeDirectory] at granted
      rw [atDirectory_of_create_map linked (fun _ => Iff.rfl) granted]
      simp only [Restores, Removes, done, and_true, not_false_eq_true]
  | makeNode text kind =>
      rw [change_makeNode] at granted
      rw [atDirectory_of_create_map linked (fun _ => Iff.rfl) granted]
      simp only [Restores, Removes, done, and_true, not_false_eq_true]
  | createFile text data =>
      have filled (created : NodeId × FileTree) :
          (created.2.adjust created.1 (·.withData data)).AtDirectory ↔ created.2.AtDirectory :=
        atDirectory_adjust fun _ _ => rfl
      rw [change_createFile] at granted
      rw [atDirectory_of_create_map linked filled granted]
      simp only [Restores, Removes, reduceCtorEq, and_false, not_false_eq_true, and_true]
  | changeDirectory text =>
      obtain ⟨path, _, directory, rfl⟩ := changeDirectory_eq_ok_iff.mp granted
      exact iff_of_true directory (.inl done)
  | unlink text =>
      rw [atDirectory_of_unlink granted]
      simp only [Restores, Removes, done, and_true, false_or, ne_eq]

/-- A request that is refused neither removes nor restores anything. -/
theorem not_granted_of_error {request : Change} {reason : TreeError}
    (refused : fs.change request = .error reason) : ¬ fs.Granted request := by
  rintro ⟨later, granted⟩
  cases granted.symm.trans refused

theorem atDirectory_operate_iff (linked : fs.Linked) (operation : Operation) :
    (fs.operate operation).AtDirectory ↔
      fs.Restores operation ∨ fs.AtDirectory ∧ ¬ fs.Removes operation := by
  cases operation with
  | change request =>
      cases granted : fs.change request with
      | ok later =>
          have next : fs.operate (.change request) = later := by rw [operate, after_eq, granted]
          rw [next]
          exact atDirectory_of_change linked granted
      | error reason =>
          have same : fs.operate (.change request) = fs := by rw [operate, after_eq, granted]
          have refused := not_granted_of_error granted
          rw [same]
          cases request <;> simp only [Restores, Removes, refused, and_false, false_or,
            not_false_eq_true, and_true]
  | openPath text flags permission =>
      simp only [operate, Restores, Removes, false_or, not_false_eq_true, and_true]
      exact atDirectory_openObject linked text flags permission
  | removePath text =>
      simp only [operate, Restores, Removes, false_or]
      cases granted : fs.unlink text with
      | ok later =>
          have next : (fs.removePath text).2 = later := by rw [removePath_eq, granted]
          have done : fs.Granted (.unlink text) := ⟨later, granted⟩
          rw [next, atDirectory_of_unlink granted]
          simp only [done, and_true, ne_eq]
      | error reason =>
          have same : (fs.removePath text).2 = fs := by rw [removePath_eq, granted]
          have refused : ¬ fs.Granted (.unlink text) := not_granted_of_error granted
          simp only [same, refused, and_false, not_false_eq_true, and_true]
  | writeAt object position data =>
      simp only [operate, Restores, Removes, false_or, not_false_eq_true, and_true]
      exact atDirectory_writeAt object position data
  | release object =>
      simp only [operate, Restores, Removes, false_or, not_false_eq_true, and_true]
      exact atDirectory_adjust fun _ _ => Node.kind_purge

theorem not_removes_of_restores {operation : Operation} (restores : fs.Restores operation) :
    ¬ fs.Removes operation := by
  cases operation with
  | change request =>
      cases request with
      | unlink text => exact restores.elim
      | _ => exact id
  | _ => exact restores.elim

/-- One operation leaves the working directory standing if it restores it, or if it stood and is
not removed. -/
theorem stands_operate_iff (reached : fs.Reached) (operation : Operation) :
    (fs.operate operation).Stands ↔
      fs.Restores operation ∨ fs.Stands ∧ ¬ fs.Removes operation := by
  rw [(reached.operate operation).shaped.stands_iff, reached.shaped.stands_iff]
  exact atDirectory_operate_iff reached.linked operation

/-- After a history the working directory stands if it was never lost, and stood at first or came
back. -/
theorem stands_foldl_operate_iff (reached : fs.Reached) (history : List Operation) :
    (history.foldl FileTree.operate fs).Stands ↔
      ¬ fs.Lost history ∧ (fs.Stands ∨ ¬ fs.Unrestored history) := by
  induction history generalizing fs with
  | nil => simp only [List.foldl_nil, Lost, Unrestored, not_true_eq_false, not_false_eq_true,
      true_and, or_false]
  | cons operation rest ih =>
      have exclusive : ¬ (fs.Restores operation ∧ fs.Removes operation) :=
        fun both => not_removes_of_restores both.1 both.2
      rw [List.foldl_cons, ih (reached.operate operation), stands_operate_iff reached, Lost,
        Unrestored]
      grind

/-- From a new tree on, the working directory is where it is reported exactly unless it was
removed and not restored since. -/
theorem stands_iff_not_lost (history : List Operation) :
    (history.foldl FileTree.operate initial).Stands ↔ ¬ initial.Lost history := by
  have reached : initial.Reached := .initial
  have stands : initial.Stands := reached.shaped.stands_iff.mpr (by decide)
  rw [stands_foldl_operate_iff reached]
  simp only [stands, true_or, and_true]

/-- A directory is removed while it is the working directory, which is reported as before: at
first nothing is there, and then a file. -/
theorem working_directory_removed :
    let fs := [.makeDirectory "/a", .changeDirectory "/a", .unlink "/a"].foldl
      FileTree.after initial
    fs.Reached ∧ Storage.workingDirectory fs = .ok "/a" ∧ "/a" ∉ fs.keys ∧ ¬ fs.Stands ∧
      (fs.after (.createFile "/a" [])).kindUnder? "/a" = some .regular := by
  intro fs
  have reached : fs.Reached := Reached.initial.foldl_after _
  refine ⟨reached, rfl, by decide, ?_, by decide⟩
  rw [reached.shaped.stands_iff]
  decide

end FileTree

end OpenFiles
