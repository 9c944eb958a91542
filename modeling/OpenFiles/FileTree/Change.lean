import OpenFiles.FileTree.Step

/-!
# Changing the file tree

New nodes go to paths that lead nowhere yet and whose parent is a directory. A
path is removed only if nothing lies below it, and the root never. `Change`
lists the requests of whoever administers the tree; opening and removing on
behalf of a program are in `OpenFiles.FileTree.Storage`.

A request runs as a `TreeStep`. Each checks before it acts, so each is atomic: a
refused request changes nothing. `createAt`, `change` and the like say what a
granted request makes of the tree, and the lemmas that end in `_eq` say it
without steps.
-/

namespace OpenFiles

namespace FileTree

def directoryPermission : UInt32 := 0o755

def nodePermission : UInt32 := 0o666

def filePermission : UInt32 := 0o644

end FileTree

namespace TreeStep

variable {ε : Type}

def addNode (kind : FileKind) (permission : UInt32) : TreeStep ε NodeId :=
  act (·.addNode kind permission)

def adjust (id : NodeId) (f : Node → Node) : TreeStep ε Unit :=
  act fun fs => ((), fs.adjust id f)

/-- Creates a node at a path that leads nowhere yet. The parent of the path must
be a directory. -/
def createAt (path : Path) (kind : FileKind) (permission : UInt32) :
    TreeStep TreeError NodeId := do
  if (← get).tree.contains path then throw .fileExists
  else
    let above ← ask (·.lookup path.parent)
    if (← get).kindOf above = some .directory then
      let id ← addNode kind permission
      act fun fs => (id, { fs with tree := fs.tree.insert path id })
    else throw .notDirectory

def create (text : String) (kind : FileKind) (permission : UInt32) :
    TreeStep TreeError NodeId := do
  let path ← ask (·.pathOf text)
  createAt path kind permission

def changeDirectory (text : String) : TreeStep TreeError Unit := do
  let path ← ask (·.pathOf text)
  let id ← ask (·.lookup path)
  if (← get).kindOf id = some .directory then
    act fun fs => ((), { fs with directory := path })
  else throw .notDirectory

/-- Removes the path that text names. Objects of its node stay usable. -/
def unlink (text : String) : TreeStep TreeError Unit := do
  let path ← ask (·.pathOf text)
  if path = Path.root then throw .busy
  else
    let id ← ask (·.lookup path)
    let fs ← get
    if fs.kindOf id = some .directory ∧ fs.tree.keys.any (·.isBelow path) then throw .notEmpty
    else
      act fun fs => ((), { fs with tree := fs.tree.erase path })
      adjust id Node.afterRemoval

end TreeStep

namespace FileTree

/-- The requests that change the tree. -/
inductive Change where
  | makeDirectory (text : String)
  | makeNode (text : String) (kind : FileKind)
  | createFile (text : String) (data : Bytes)
  | changeDirectory (text : String)
  | unlink (text : String)

/-- What a request does. A file is created before it gets its contents. -/
def Change.step : Change → TreeStep TreeError Unit
  | makeDirectory text => do
    let _ ← TreeStep.create text .directory directoryPermission
  | makeNode text kind => do
    let _ ← TreeStep.create text kind nodePermission
  | createFile text data => do
    let id ← TreeStep.create text .regular filePermission
    TreeStep.adjust id (·.withData data)
  | changeDirectory text => TreeStep.changeDirectory text
  | unlink text => TreeStep.unlink text

variable (fs : FileTree)

def createAt (path : Path) (kind : FileKind) (permission : UInt32) :
    Except TreeError (NodeId × FileTree) :=
  (TreeStep.createAt path kind permission).result fs

def create (text : String) (kind : FileKind) (permission : UInt32) :
    Except TreeError (NodeId × FileTree) :=
  (TreeStep.create text kind permission).result fs

/-- The tree after a request, unless it is refused. -/
def change (request : Change) : Except TreeError FileTree :=
  (request.step.result fs).map Prod.snd

def changeDirectory (text : String) : Except TreeError FileTree :=
  fs.change (.changeDirectory text)

def unlink (text : String) : Except TreeError FileTree := fs.change (.unlink text)

def after (request : Change) : FileTree := (request.step.outcome fs).2

/-- A tree of the root directory alone. -/
def bare : FileTree where
  nodes := [Node.fresh .first .directory directoryPermission]
  tree := (∅ : OrderedMap Path NodeId).insert Path.root ⟨0⟩
  directory := Path.root
  inodeCounter := 2

/-- A new tree: the root, the directory `/dev`, and two devices in it. -/
def initial : FileTree :=
  [.makeDirectory "/dev", .makeNode "/dev/null" .charDevice,
    .makeNode "/dev/tty" .charDevice].foldl after bare

variable {fs}

theorem createAt_eq (path : Path) (kind : FileKind) (permission : UInt32) :
    fs.createAt path kind permission =
      if fs.tree.contains path then .error .fileExists
      else
        match fs.lookup path.parent with
        | .error reason => .error reason
        | .ok above =>
          if fs.kindOf above = some .directory then
            let (id, grown) := fs.addNode kind permission
            .ok (id, { grown with tree := fs.tree.insert path id })
          else .error .notDirectory := by
  simp only [createAt, TreeStep.createAt, TreeStep.addNode, TreeStep.result_bind,
    TreeStep.result_get, TreeStep.result_ite, TreeStep.result_ask, TreeStep.result_throw,
    TreeStep.result_act]
  cases fs.lookup path.parent <;> rfl

theorem create_eq (text : String) (kind : FileKind) (permission : UInt32) :
    fs.create text kind permission =
      (fs.pathOf text >>= fun path => fs.createAt path kind permission) := by
  simp only [create, TreeStep.create, TreeStep.result_bind, TreeStep.result_ask]
  cases fs.pathOf text <;> rfl

theorem change_makeDirectory (text : String) :
    fs.change (.makeDirectory text) =
      (fs.create text .directory directoryPermission).map Prod.snd := by
  simp only [change, Change.step, TreeStep.result_bind, create]
  cases (TreeStep.create text .directory directoryPermission).result fs <;> rfl

theorem change_makeNode (text : String) (kind : FileKind) :
    fs.change (.makeNode text kind) = (fs.create text kind nodePermission).map Prod.snd := by
  simp only [change, Change.step, TreeStep.result_bind, create]
  cases (TreeStep.create text kind nodePermission).result fs <;> rfl

theorem change_createFile (text : String) (data : Bytes) :
    fs.change (.createFile text data) = (fs.create text .regular filePermission).map
      fun (id, grown) => grown.adjust id (·.withData data) := by
  simp only [change, Change.step, TreeStep.result_bind, create]
  cases (TreeStep.create text .regular filePermission).result fs <;> rfl

theorem changeDirectory_eq (text : String) :
    fs.changeDirectory text =
      (fs.pathOf text >>= fun path => fs.lookup path >>= fun id =>
        if fs.kindOf id = some .directory then .ok { fs with directory := path }
        else .error .notDirectory) := by
  simp only [changeDirectory, change, Change.step, TreeStep.changeDirectory,
    TreeStep.result_bind, TreeStep.result_ask, TreeStep.result_get, TreeStep.result_ite,
    TreeStep.result_throw, TreeStep.result_act]
  cases fs.pathOf text with
  | error reason => rfl
  | ok path =>
    simp only [bind, Except.bind, Except.map]
    cases fs.lookup path with
    | error reason => rfl
    | ok id =>
      by_cases directory : fs.kindOf id = some .directory
      · simp only [if_pos directory]
      · simp only [if_neg directory]

theorem unlink_eq (text : String) :
    fs.unlink text =
      (fs.pathOf text >>= fun path =>
        if path = Path.root then .error .busy
        else fs.lookup path >>= fun id =>
          if fs.kindOf id = some .directory ∧ fs.tree.keys.any (·.isBelow path) then
            .error .notEmpty
          else .ok (FileTree.adjust { fs with tree := fs.tree.erase path } id
            Node.afterRemoval)) := by
  simp only [unlink, change, Change.step, TreeStep.unlink, TreeStep.adjust,
    TreeStep.result_bind, TreeStep.result_ask, TreeStep.result_get, TreeStep.result_ite,
    TreeStep.result_throw, TreeStep.result_act]
  cases fs.pathOf text with
  | error reason => rfl
  | ok path =>
    simp only [bind, Except.bind, Except.map]
    by_cases top : path = Path.root
    · simp only [if_pos top]
    · simp only [if_neg top]
      cases fs.lookup path with
      | error reason => rfl
      | ok id =>
        by_cases below : fs.kindOf id = some .directory ∧ fs.tree.keys.any (·.isBelow path)
        · simp only [if_pos below]
        · simp only [if_neg below]

end FileTree

namespace TreeStep

/-- A node is created only when nothing can refuse it any more. -/
theorem atomic_createAt (path : Path) (kind : FileKind) (permission : UInt32) :
    Atomic (createAt path kind permission) := by
  refine asks_get.bind fun fs => ?_
  split
  · exact atomic_refuse _
  · refine (asks_ask _).bind fun above => asks_get.bind fun fs => ?_
    split
    · exact Atomic.bind_acts (acts_act _).atomic fun id => acts_act _
    · exact atomic_refuse _

theorem atomic_create (text : String) (kind : FileKind) (permission : UInt32) :
    Atomic (create text kind permission) :=
  (asks_ask _).bind fun path => atomic_createAt path kind permission

theorem atomic_changeDirectory (text : String) : Atomic (changeDirectory text) := by
  refine (asks_ask _).bind fun path => (asks_ask _).bind fun id => asks_get.bind fun fs => ?_
  split
  · exact (acts_act _).atomic
  · exact atomic_refuse _

theorem atomic_unlink (text : String) : Atomic (unlink text) := by
  refine (asks_ask _).bind fun path => ?_
  split
  · exact atomic_refuse _
  · refine (asks_ask _).bind fun id => asks_get.bind fun fs => ?_
    split
    · exact atomic_refuse _
    · exact Atomic.bind_acts (acts_act _).atomic fun _ => acts_act _

end TreeStep

namespace FileTree

/-- A refused request changes nothing. -/
theorem Change.atomic_step (request : Change) : TreeStep.Atomic request.step := by
  cases request with
  | makeDirectory text =>
    exact TreeStep.Atomic.bind_acts (TreeStep.atomic_create _ _ _) fun _ => TreeStep.acts_pure _
  | makeNode text kind =>
    exact TreeStep.Atomic.bind_acts (TreeStep.atomic_create _ _ _) fun _ => TreeStep.acts_pure _
  | createFile text data =>
    exact TreeStep.Atomic.bind_acts (TreeStep.atomic_create _ _ _) fun _ => TreeStep.acts_act _
  | changeDirectory text => exact TreeStep.atomic_changeDirectory text
  | unlink text => exact TreeStep.atomic_unlink text

/-- The tree after a request, or as it was if the request is refused. -/
theorem after_eq (fs : FileTree) (request : Change) :
    fs.after request =
      match fs.change request with
      | .ok later => later
      | .error _ => fs := by
  rw [after, request.atomic_step.outcome_eq, change]
  cases request.step.result fs <;> rfl

end FileTree

end OpenFiles
