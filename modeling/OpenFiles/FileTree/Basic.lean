import OpenFiles.FileTree.Node
import OpenFiles.OrderedMap.Basic
import OpenFiles.Path

/-!
# The file tree

A `FileTree` keeps everything in memory. `nodes` has every node ever created, in
the order of creation, so that a node keeps its row for good. `tree` says which
node each existing path leads to. Removing a path takes it out of `tree` and
leaves the node in its row, where objects that are still open find it.

A file grows only while memory grants its contents, which are then fewer than `granted`
bytes.

Inode numbers come from a 32-bit counter that passes over 0. Nothing stops the
counter from coming round: a number names the node that got it last.

Requests on the tree fail with a `TreeError`. `TreeError.toError` is how the
rest of the kernel sees it. What changes the tree is in `OpenFiles.FileTree.Change`.
-/

namespace OpenFiles

/-- The reasons for which the file tree refuses a request. -/
inductive TreeError where
  /-- The path leads nowhere. -/
  | notFound
  /-- The path to create exists. -/
  | fileExists
  /-- Something on the way is no directory. -/
  | notDirectory
  /-- A directory was opened for writing. -/
  | isDirectory
  /-- The directory to remove has entries. -/
  | notEmpty
  /-- The root cannot be removed. -/
  | busy
  /-- The path is empty text. -/
  | invalidPath
  deriving DecidableEq

namespace TreeError

/-- The kernel error that reports a refusal of the tree. -/
def toError : TreeError → Error
  | notFound => .noSuchEntry
  | fileExists => .fileExists
  | notDirectory => .notDirectory
  | isDirectory => .isDirectory
  | notEmpty => .directoryNotEmpty
  | busy => .busy
  | invalidPath => .noSuchEntry

def name : TreeError → String
  | notFound => "NotFound"
  | fileExists => "Exists"
  | notDirectory => "NotDirectory"
  | isDirectory => "IsDirectory"
  | notEmpty => "NotEmpty"
  | busy => "Busy"
  | invalidPath => "InvalidPath"

end TreeError

/-- A memory-resident tree of directories, files and devices. -/
structure FileTree where
  nodes : List Node
  tree : OrderedMap Path NodeId
  directory : Path
  inodeCounter : UInt32
  granted : Nat := allocationLimit
  deriving DecidableEq

namespace FileTree

def withGranted (fs : FileTree) (bytes : Nat) : FileTree := { fs with granted := bytes }

def node? (fs : FileTree) (id : NodeId) : Option Node := fs.nodes[id.index]?

/-- The tree with the node of one row sent through `f`. -/
def adjust (fs : FileTree) (id : NodeId) (f : Node → Node) : FileTree :=
  { fs with nodes := fs.nodes.modify id.index f }

/-- The next inode number, and the counter after it. -/
def takeInode (counter : UInt32) : Inode × UInt32 :=
  if h : counter ≠ 0 then (⟨counter, h⟩, counter + 1) else (.first, 2)

/-- Adds a fresh node. It is in no path yet. -/
def addNode (fs : FileTree) (kind : FileKind) (permission : UInt32) : NodeId × FileTree :=
  let (inode, counter) := takeInode fs.inodeCounter
  (⟨fs.nodes.length⟩,
    { fs with nodes := fs.nodes ++ [Node.fresh inode kind permission], inodeCounter := counter })

def pathOf (fs : FileTree) (text : String) : Except TreeError Path :=
  match Path.ofText? fs.directory text with
  | some path => .ok path
  | none => .error .invalidPath

def lookup (fs : FileTree) (path : Path) : Except TreeError NodeId :=
  match fs.tree.get? path with
  | some id => .ok id
  | none => .error .notFound

def kindOf (fs : FileTree) (id : NodeId) : Option FileKind :=
  (fs.node? id).map (·.kind)

def contents (fs : FileTree) (text : String) : Except TreeError Bytes := do
  let path ← fs.pathOf text
  let id ← fs.lookup path
  .ok ((fs.node? id).elim [] (·.data))

def summary (fs : FileTree) (text : String) : Except TreeError NodeSummary := do
  let path ← fs.pathOf text
  let id ← fs.lookup path
  match fs.node? id with
  | some node => .ok node.summary
  | none => .error .notFound

/-- The node that got an inode number last. -/
def nodeOfInode? (fs : FileTree) (inode : UInt32) : Option Node :=
  fs.nodes.reverse.find? fun node => node.inode.value = inode

/-- The summary of the node that got an inode number last, removed or not. -/
def summaryOfInode? (fs : FileTree) (inode : UInt32) : Option NodeSummary :=
  (fs.nodeOfInode? inode).map Node.summary

variable {fs : FileTree} {id : NodeId}

@[simp] theorem tree_adjust (f : Node → Node) : (fs.adjust id f).tree = fs.tree := rfl

@[simp] theorem directory_adjust (f : Node → Node) :
    (fs.adjust id f).directory = fs.directory := rfl

@[simp] theorem inodeCounter_adjust (f : Node → Node) :
    (fs.adjust id f).inodeCounter = fs.inodeCounter := rfl

theorem node?_adjust (f : Node → Node) (other : NodeId) :
    (fs.adjust id f).node? other =
      if id = other then (fs.node? other).map f else fs.node? other := by
  unfold node? adjust
  rw [List.getElem?_modify]
  by_cases same : id = other
  · subst same
    simp
  · have apart : id.index ≠ other.index := fun h => same (by cases id; cases other; simp_all)
    cases fs.nodes[other.index]? <;> simp [same, apart]

end FileTree

end OpenFiles
