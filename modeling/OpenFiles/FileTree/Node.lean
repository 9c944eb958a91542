import OpenFiles.Object

/-!
# Nodes of the file tree

A `Node` is a file, a directory or a device, with its contents and three pieces
of history: how often it was opened, how often one of its objects was released,
and whether its path is gone. Contents of a node without a path are dropped when
releases have caught up with opens; the history is kept.

Only regular files have contents that reads and writes reach. Devices read as
empty and swallow what is written. Directories refuse both.
-/

namespace OpenFiles

/-- A file, directory or device. `opens` and `releases` count without bound. The
program counts in machine words, which come round to 0 after 2^64 opens or
releases of one node; the two agree as long as neither has. -/
structure Node where
  inode : Inode
  kind : FileKind
  permission : UInt32
  data : Bytes
  opens : Nat
  releases : Nat
  removed : Bool
  deriving DecidableEq

/-- What can be asked about a node. -/
structure NodeSummary where
  inode : Inode
  kind : FileKind
  size : Nat
  permission : UInt32
  opens : Nat
  releases : Nat
  deriving DecidableEq

namespace Node

/-- A node without contents or history. -/
def fresh (inode : Inode) (kind : FileKind) (permission : UInt32) : Node where
  inode := inode
  kind := kind
  permission := permission
  data := []
  opens := 0
  releases := 0
  removed := false

def withData (node : Node) (data : Bytes) : Node := { node with data := data }

/-- The node with its contents dropped if its path is gone and every open has
been matched by a release. -/
def purge (node : Node) : Node :=
  if node.removed ∧ node.opens ≤ node.releases then node.withData [] else node

def afterOpen (node : Node) : Node := { node with opens := node.opens + 1 }

def afterRelease (node : Node) : Node := { node with releases := node.releases + 1 }.purge

def afterRemoval (node : Node) : Node := { node with removed := true }.purge

def summary (node : Node) : NodeSummary where
  inode := node.inode
  kind := node.kind
  size := node.data.length
  permission := node.permission
  opens := node.opens
  releases := node.releases

/-- The contents with `data` written over them from `position` on. A gap between
the old end and `position` is filled with zeros. -/
def overwrite (contents : Bytes) (position : Nat) (data : Bytes) : Bytes :=
  contents.take position ++ List.replicate (position - contents.length) 0 ++ data ++
    contents.drop (position + data.length)

/-- Copies the bytes from `position` on to the front of a buffer, as many as are
there and fit, and answers how many these were. -/
def readInto (node : Node) (position : Nat) (buffer : Bytes) : Except Error Nat × Bytes :=
  match node.kind with
  | .directory => (.error .isDirectory, buffer)
  | .charDevice => (.ok 0, buffer)
  | .blockDevice => (.ok 0, buffer)
  | .regular =>
    if node.data.length ≤ position then (.ok 0, buffer)
    else
      let count := min buffer.length (node.data.length - position)
      (.ok count, (node.data.drop position).take count ++ buffer.drop count)

/-- Reads at most `length` bytes from `position` on, through a blank buffer. -/
def readAt (node : Node) (position length : Nat) : Except Error Bytes :=
  let (answer, buffer) := node.readInto position (List.replicate length 0)
  answer.map fun count => buffer.take count

/-- Writes `data` from `position` on. The write is refused if its end is no
word, or if the file would have to grow to `granted` bytes or more. -/
def writeAt (node : Node) (granted position : Nat) (data : Bytes) : Except Error Nat × Node :=
  match node.kind with
  | .directory => (.error .isDirectory, node)
  | .charDevice => (.ok data.length, node)
  | .blockDevice => (.ok data.length, node)
  | .regular =>
    let finish := position + data.length
    if wordLimit ≤ finish then (.error .invalidArgument, node)
    else if node.data.length < finish ∧ granted ≤ finish then (.error .noSpace, node)
    else (.ok data.length, node.withData (overwrite node.data position data))

variable {node : Node}

/-- Contents go only from a node without a path whose releases match its opens. -/
theorem data_purge :
    node.purge.data = if node.removed ∧ node.opens ≤ node.releases then [] else node.data := by
  unfold purge
  split <;> rfl

@[simp] theorem inode_purge : node.purge.inode = node.inode := by
  unfold purge
  split <;> rfl

@[simp] theorem kind_purge : node.purge.kind = node.kind := by
  unfold purge
  split <;> rfl

@[simp] theorem opens_purge : node.purge.opens = node.opens := by
  unfold purge
  split <;> rfl

@[simp] theorem releases_purge : node.purge.releases = node.releases := by
  unfold purge
  split <;> rfl

@[simp] theorem removed_purge : node.purge.removed = node.removed := by
  unfold purge
  split <;> rfl

theorem readAt_eq (position length : Nat) :
    node.readAt position length =
      match node.kind with
      | .directory => .error .isDirectory
      | .charDevice => .ok []
      | .blockDevice => .ok []
      | .regular => .ok ((node.data.drop position).take length) := by
  unfold readAt readInto
  cases node.kind with
  | directory => rfl
  | charDevice => rfl
  | blockDevice => rfl
  | regular =>
    dsimp only
    split
    · rename_i behind
      simp [Except.map, List.drop_eq_nil_of_le behind]
    · have upto : min length (node.data.length - position) = ((node.data.drop position).take
          (min length (node.data.length - position))).length := by
        rw [List.length_take, List.length_drop]
        omega
      simp only [Except.map, List.length_replicate, Except.ok.injEq]
      rw [List.take_append_of_le_length (Nat.le_of_eq upto), List.take_of_length_le
        (Nat.le_of_eq upto.symm), ← List.length_drop, ← List.take_eq_take_min]

/-- A read puts what it answers at the front of the buffer, whatever was there, and
leaves the rest of the buffer alone. A refused read leaves all of it alone. -/
theorem readInto_eq (position : Nat) (buffer : Bytes) :
    node.readInto position buffer =
      match node.readAt position buffer.length with
      | .ok data => (.ok data.length, data ++ buffer.drop data.length)
      | .error reason => (.error reason, buffer) := by
  rw [readAt_eq]
  unfold readInto
  cases node.kind with
  | directory => rfl
  | charDevice => rfl
  | blockDevice => rfl
  | regular =>
    dsimp only
    split
    · rename_i behind
      simp [List.drop_eq_nil_of_le behind]
    · rw [List.length_take, List.length_drop, ← List.length_drop, ← List.take_eq_take_min]

theorem length_overwrite (contents : Bytes) (position : Nat) (data : Bytes) :
    (overwrite contents position data).length = max contents.length (position + data.length) := by
  simp only [overwrite, List.length_append, List.length_take, List.length_replicate,
    List.length_drop]
  omega

end Node

end OpenFiles
