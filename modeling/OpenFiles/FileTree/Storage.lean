import OpenFiles.FileTree.Change

/-!
# The file tree as a storage

The file tree meets the contract of `Storage`. An object of the tree names the
row of its node, so it reaches its node whether or not a path still does.

An open may create the file it opens and may empty it. Both happen before the
tables get to see the object, and nothing here takes them back. A refused open,
on the other hand, leaves the tree as it was: a directory is refused to a writer
only after the path has been located, but a file that the same open made is no
directory.
-/

namespace OpenFiles

namespace TreeStep

/-- The row that text leads to. With `create`, a missing file is made, and with
`exclusive` in addition, a path that exists is refused. -/
def locate (text : String) (create exclusive : Bool) (permission : UInt32) :
    TreeStep TreeError NodeId := do
  let path ← ask (·.pathOf text)
  match (← get).tree.get? path with
  | some id => if create && exclusive then throw .fileExists else return id
  | none => if create then createAt path .regular permission else throw .notFound

/-- Opens the node in a row. A writer is refused a directory, and empties a
regular file if it asks for that. -/
def openRow (id : NodeId) (mode : OpenMode) (truncate : Bool) : TreeStep Error Object := do
  match (← get).node? id with
  | none => throw .noSuchEntry
  | some node =>
    if node.kind = .directory ∧ mode.writable then throw .isDirectory
    else
      if node.kind = .regular ∧ truncate ∧ mode.writable then
        adjust id (·.withData [])
      adjust id Node.afterOpen
      return ⟨node.inode, node.kind, id⟩

def openPath (text : String) (flags : OpenFlags) (permission : UInt32) :
    TreeStep Error Object := do
  let mode ← ask fun _ => flags.openMode
  let id ← EStateM.adaptExcept TreeError.toError
    (locate text flags.create flags.exclusive permission)
  openRow id mode flags.truncate

def removePath (text : String) : TreeStep Error Unit :=
  EStateM.adaptExcept TreeError.toError (unlink text)

end TreeStep

namespace FileTree

def locate (fs : FileTree) (text : String) (create exclusive : Bool) (permission : UInt32) :
    Except TreeError (NodeId × FileTree) :=
  (TreeStep.locate text create exclusive permission).result fs

def openPath (fs : FileTree) (text : String) (flags : OpenFlags) (permission : UInt32) :
    Except Error (Object × FileTree) :=
  (TreeStep.openPath text flags permission).result fs

def openObject (text : String) (flags : OpenFlags) (permission : UInt32) (fs : FileTree) :
    Except Error Object × FileTree :=
  (TreeStep.openPath text flags permission).outcome fs

def removePath (text : String) (fs : FileTree) : Except Error Unit × FileTree :=
  (TreeStep.removePath text).outcome fs

def sizeOf (object : Object) (fs : FileTree) : Nat :=
  (fs.node? object.node).elim 0 (·.data.length)

def readAt (object : Object) (position length : Nat) (fs : FileTree) : Except Error Bytes :=
  match fs.node? object.node with
  | some node => node.readAt position length
  | none => .error .inputOutput

def readInto (object : Object) (position : Nat) (buffer : Bytes) (fs : FileTree) :
    Except Error Nat × Bytes :=
  match fs.node? object.node with
  | some node => node.readInto position buffer
  | none => (.error .inputOutput, buffer)

def writeAt (object : Object) (position : Nat) (data : Bytes) (fs : FileTree) :
    Except Error Nat × FileTree :=
  match fs.node? object.node with
  | some node =>
    let (answer, written) := node.writeAt fs.granted position data
    (answer, fs.adjust object.node fun _ => written)
  | none => (.error .inputOutput, fs)

def release (object : Object) (fs : FileTree) : FileTree :=
  fs.adjust object.node Node.afterRelease

instance : Storage FileTree where
  openPath := openObject
  removePath := removePath
  workingDirectory fs := .ok fs.directory.render
  sizeOf := sizeOf
  readAt := readAt
  writeAt := writeAt
  release := release

variable {fs : FileTree}

theorem openRow_eq (id : NodeId) (mode : OpenMode) (truncate : Bool) (grown : FileTree) :
    (TreeStep.openRow id mode truncate).result grown =
      match grown.node? id with
      | none => .error .noSuchEntry
      | some node =>
        if node.kind = .directory ∧ mode.writable then .error .isDirectory
        else
          let emptied :=
            if node.kind = .regular ∧ truncate ∧ mode.writable then
              grown.adjust id (·.withData [])
            else grown
          .ok (⟨node.inode, node.kind, id⟩, emptied.adjust id Node.afterOpen) := by
  simp only [TreeStep.openRow, TreeStep.adjust, TreeStep.result_bind, TreeStep.result_get]
  cases grown.node? id with
  | none => rfl
  | some node =>
    simp only [TreeStep.result_throw, TreeStep.result_ite]
    by_cases barred : node.kind = .directory ∧ mode.writable = true
    · simp only [if_pos barred]
    · simp only [if_neg barred]
      by_cases emptied : node.kind = .regular ∧ truncate = true ∧ mode.writable = true
      · simp only [if_pos emptied]
        rfl
      · simp only [if_neg emptied]
        rfl

theorem locate_eq (text : String) (create exclusive : Bool) (permission : UInt32) :
    fs.locate text create exclusive permission =
      (fs.pathOf text >>= fun path =>
        match fs.tree.get? path with
        | some id => if create && exclusive then .error .fileExists else .ok (id, fs)
        | none => if create then fs.createAt path .regular permission else .error .notFound) := by
  simp only [locate, TreeStep.locate, TreeStep.result_bind, TreeStep.result_ask,
    TreeStep.result_get]
  cases fs.pathOf text with
  | error reason => rfl
  | ok path =>
    simp only [bind, Except.bind, Except.map]
    cases fs.tree.get? path with
    | none =>
      simp only [TreeStep.result_ite, TreeStep.result_throw]
      rfl
    | some id => simp only [TreeStep.result_ite, TreeStep.result_throw, TreeStep.result_pure]

theorem openPath_eq (text : String) (flags : OpenFlags) (permission : UInt32) :
    fs.openPath text flags permission =
      (flags.openMode >>= fun mode =>
        (fs.locate text flags.create flags.exclusive permission).mapError TreeError.toError >>=
          fun (id, grown) =>
            match grown.node? id with
            | none => .error .noSuchEntry
            | some node =>
              if node.kind = .directory ∧ mode.writable then .error .isDirectory
              else
                let emptied :=
                  if node.kind = .regular ∧ flags.truncate ∧ mode.writable then
                    grown.adjust id (·.withData [])
                  else grown
                .ok (⟨node.inode, node.kind, id⟩, emptied.adjust id Node.afterOpen)) := by
  have located : (TreeStep.locate text flags.create flags.exclusive permission).result fs =
      fs.locate text flags.create flags.exclusive permission := rfl
  simp only [openPath, TreeStep.openPath, TreeStep.result_bind, TreeStep.result_ask,
    TreeStep.result_adaptExcept]
  cases flags.openMode with
  | error reason => rfl
  | ok mode =>
    simp only [bind, Except.bind, Except.map, located]
    cases (fs.locate text flags.create flags.exclusive permission).mapError
      TreeError.toError with
    | error reason => rfl
    | ok located =>
      obtain ⟨id, grown⟩ := located
      exact openRow_eq id mode flags.truncate grown

end FileTree

namespace TreeStep

theorem atomic_locate (text : String) (create exclusive : Bool) (permission : UInt32) :
    Atomic (locate text create exclusive permission) := by
  refine (asks_ask _).bind fun path => asks_get.bind fun fs => ?_
  cases fs.tree.get? path with
  | none =>
    dsimp only
    split
    · exact atomic_createAt path .regular permission
    · exact atomic_refuse _
  | some id =>
    dsimp only
    split
    · exact atomic_refuse _
    · exact (acts_pure id).atomic

theorem atomic_openRow (id : NodeId) (mode : OpenMode) (truncate : Bool) :
    Atomic (openRow id mode truncate) := by
  refine asks_get.bind fun fs => ?_
  cases fs.node? id with
  | none => exact atomic_refuse _
  | some node =>
    dsimp only
    split
    · exact atomic_refuse _
    · have counts (object : Object) : Acts (adjust id Node.afterOpen >>= fun _ =>
          (pure object : TreeStep Error Object)) := Acts.bind (acts_act _) fun _ => acts_pure _
      split
      · exact (Acts.bind (acts_act _) fun _ => counts _).atomic
      · exact (counts _).atomic

/-- Whoever opens a regular file is not refused. -/
theorem openRow_granted {fs : FileTree} {id : NodeId} {node : Node}
    (found : fs.node? id = some node) (regular : node.kind = .regular) (mode : OpenMode)
    (truncate : Bool) :
    ∃ object later, openRow id mode truncate fs = .ok object later := by
  have outcome := FileTree.openRow_eq id mode truncate fs
  have allowed : ¬ (node.kind = .directory ∧ mode.writable = true) := by
    rw [regular]
    exact fun barred => nomatch barred.1
  simp only [found, if_neg allowed] at outcome
  unfold result at outcome
  cases answer : openRow id mode truncate fs with
  | ok object later => exact ⟨object, later, rfl⟩
  | error reason later =>
    rw [answer] at outcome
    cases outcome

/-- What locating changes, if anything, is that there is a new regular file. -/
theorem located_or_made {fs made : FileTree} {text : String} {create exclusive : Bool}
    {permission : UInt32} {id : NodeId}
    (answer : locate text create exclusive permission fs = .ok id made) :
    made = fs ∨ ∃ node, made.node? id = some node ∧ node.kind = .regular := by
  have located : fs.locate text create exclusive permission = .ok (id, made) := by
    rw [FileTree.locate, result, answer]
  rw [FileTree.locate_eq] at located
  cases named : fs.pathOf text with
  | error reason =>
    rw [named] at located
    cases located
  | ok path =>
    simp only [named, bind, Except.bind] at located
    split at located
    · split at located
      · cases located
      · cases located
        exact .inl rfl
    · split at located
      · rw [FileTree.createAt_eq] at located
        split at located
        · cases located
        · split at located
          · cases located
          · split at located
            · cases located
              refine .inr ⟨Node.fresh (FileTree.takeInode fs.inodeCounter).1 .regular permission,
                ?_, rfl⟩
              exact List.getElem?_concat_length
            · cases located
      · cases located

/-- An open may have created a file when it comes to the check for directories. But what it
created is a regular file, and passes. -/
theorem atomic_openPath (text : String) (flags : OpenFlags) (permission : UInt32) :
    Atomic (openPath text flags permission) := by
  refine (asks_ask _).bind fun mode => ?_
  refine Atomic.bind (Atomic.adaptExcept (atomic_locate _ _ _ _) _)
    (fun id => atomic_openRow id mode flags.truncate) fun fs id made answer => ?_
  unfold EStateM.adaptExcept at answer
  cases located : locate text flags.create flags.exclusive permission fs with
  | error reason later =>
    rw [located] at answer
    cases answer
  | ok id' made' =>
    rw [located] at answer
    cases answer
    refine (located_or_made located).imp_right ?_
    rintro ⟨node, found, regular⟩
    exact openRow_granted found regular mode flags.truncate

theorem atomic_removePath (text : String) : Atomic (removePath text) :=
  (atomic_unlink text).adaptExcept _

end TreeStep

namespace FileTree

/-- A refused open leaves the tree as it was. -/
theorem openObject_eq (text : String) (flags : OpenFlags) (permission : UInt32) (fs : FileTree) :
    openObject text flags permission fs =
      match fs.openPath text flags permission with
      | .ok (object, later) => (.ok object, later)
      | .error reason => (.error reason, fs) := by
  rw [openObject, (TreeStep.atomic_openPath text flags permission).outcome_eq, openPath]
  cases (TreeStep.openPath text flags permission).result fs <;> rfl

/-- A refused removal leaves the tree as it was. -/
theorem removePath_eq (text : String) (fs : FileTree) :
    removePath text fs =
      match fs.unlink text with
      | .ok later => (.ok (), later)
      | .error reason => (.error reason.toError, fs) := by
  rw [removePath, (TreeStep.atomic_removePath text).outcome_eq, TreeStep.removePath,
    TreeStep.result_adaptExcept, unlink, change, Change.step]
  cases (TreeStep.unlink text).result fs <;> rfl

end FileTree

end OpenFiles
