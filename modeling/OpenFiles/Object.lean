import OpenFiles.Ident
import OpenFiles.OpenFlags
import OpenFiles.Word

/-!
# Objects and the storage that holds them

The tables do not know how files are stored. They see objects: what a storage
answers when a path is opened. An object carries its inode number and its kind,
which never change, and the storage's own name for what was opened. Two objects
count as one and the same when their inode numbers agree, by whatever paths they
were opened. That this tells different files apart is a promise of the storage,
not of this module.

`Storage` is the contract between the two. Its operations take the state of the
storage and return the next one; those that only look return no state.
-/

namespace OpenFiles

inductive FileKind where
  | regular
  | directory
  | charDevice
  | blockDevice
  deriving DecidableEq

namespace FileKind

/-- Whether a cursor into the object means anything. Devices are streams and
have no positions. -/
def isSeekable : FileKind → Bool
  | regular => true
  | directory => true
  | charDevice => false
  | blockDevice => false

def name : FileKind → String
  | regular => "RegularFile"
  | directory => "Directory"
  | charDevice => "CharDevice"
  | blockDevice => "BlockDevice"

end FileKind

/-- A storage's name for something that can be open: the row in which it keeps
it. -/
structure NodeId where
  index : Nat
  deriving DecidableEq

/-- An open object of a storage. -/
structure Object where
  inode : Inode
  kind : FileKind
  node : NodeId
  deriving DecidableEq

namespace Object

/-- Whether two objects count as the same: their inode numbers agree. -/
def same (a b : Object) : Bool := a.inode = b.inode

def describe (object : Object) : String :=
  s!"Object \x7b ino: InodeNumber({object.inode.value}), kind: " ++ object.kind.name ++ " \x7d"

@[simp] theorem same_iff {a b : Object} : a.same b = true ↔ a.inode = b.inode := by
  simp [same]

end Object

/-- What the tables ask of a storage. A position is a count of bytes from the
start of an object. -/
class Storage (σ : Type) where
  /-- Opens a path; new files get the given permission. -/
  openPath : String → OpenFlags → UInt32 → σ → Except Error Object × σ
  /-- Removes a path. -/
  removePath : String → σ → Except Error Unit × σ
  /-- The path against which relative paths are read. -/
  workingDirectory : σ → Except Error String
  /-- The size of an object in bytes. -/
  sizeOf : Object → σ → Nat
  /-- At most so many bytes from a position on. -/
  readAt : Object → Nat → Nat → σ → Except Error Bytes
  /-- Writes bytes from a position on, and answers how many. -/
  writeAt : Object → Nat → Bytes → σ → Except Error Nat × σ
  /-- Releases an object. The tables do so once for each time that it stops
  being open anywhere. -/
  release : Object → σ → σ

namespace Object

variable {σ : Type} [Storage σ]

/-- Reads from an object. A read of no bytes does not reach the storage. -/
def read (object : Object) (position length : Nat) (store : σ) : Except Error Bytes :=
  if length = 0 then .ok [] else Storage.readAt object position length store

/-- Writes to an object. A write of no bytes does not reach the storage. -/
def write (object : Object) (position : Nat) (data : Bytes) (store : σ) : Except Error Nat × σ :=
  if data = [] then (.ok 0, store) else Storage.writeAt object position data store

@[simp] theorem read_zero (object : Object) (position : Nat) (store : σ) :
    object.read position 0 store = .ok [] := rfl

@[simp] theorem write_nil (object : Object) (position : Nat) (store : σ) :
    object.write position [] store = (.ok 0, store) := rfl

end Object

end OpenFiles
