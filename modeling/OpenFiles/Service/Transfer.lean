import OpenFiles.Service.Basic

/-!
# Reading, writing and seeking

A transfer on an open file starts at the cursor of its group and moves the
cursor behind what was transferred. A write through an appending descriptor
starts at the end of the object instead, wherever the cursor is. Transfers on
the standard streams go to the console, even those of no bytes; transfers of no
bytes on an open file end before the storage is asked.

A seek computes its target exactly, in the integers, and refuses one that is no
word.
-/

namespace OpenFiles

namespace Service

variable {σ κ : Type}

open OpenFiles.Action

def tell (pid : Pid) (fd : Descriptor) : Action (Service σ κ) Nat := do
  match ← slot pid fd with
  | .stream _ => refuse .illegalSeek
  | .shared id =>
    let group ← group id
    return group.cursor

variable [Storage σ]

/-- Reads at most `length` bytes from the object of a group. -/
def readShared (id : GroupId) (length : Nat) : Action (Service σ κ) Bytes := do
  let group ← group id
  if !group.rights.read then
    refuse .badAccessMode
  else if length = 0 then
    return []
  else
    let object ← objectBehind id
    let s ← get
    let data ← orRefuse (object.read group.cursor length s.storage)
    advance id group.cursor data.length
    return data

/-- Writes bytes to the object of a group and answers how many were written. -/
def writeShared (id : GroupId) (data : Bytes) : Action (Service σ κ) Nat := do
  let group ← group id
  if !group.rights.write then
    refuse .badAccessMode
  else if data = [] then
    return 0
  else
    let object ← objectBehind id
    let s ← get
    let start := if group.rights.append then Storage.sizeOf object s.storage else group.cursor
    let answer ← onStorage (object.write start data)
    let count ← orRefuse answer
    advance id start count
    return count

def read [ByteDevice κ] (pid : Pid) (fd : Descriptor) (length : Nat) :
    Action (Service σ κ) Bytes := do
  match ← slot pid fd with
  | .stream stream =>
    if stream.rights.read then
      let answer ← onConsole (ByteDevice.read length)
      orRefuse answer
    else
      refuse .badAccessMode
  | .shared id => readShared id length

def write [ByteDevice κ] (pid : Pid) (fd : Descriptor) (data : Bytes) :
    Action (Service σ κ) Nat := do
  match ← slot pid fd with
  | .stream stream =>
    if stream.rights.write then
      let answer ← onConsole (ByteDevice.write data)
      orRefuse answer
    else
      refuse .badAccessMode
  | .shared id => writeShared id data

/-- The position that a base stands for: the start of an object, the cursor of a
group, or the end of the object. -/
def basePosition (s : Service σ κ) (object : Object) (cursor : Nat) : SeekBase → Nat
  | .start => 0
  | .current => cursor
  | .finish => Storage.sizeOf object s.storage

/-- Moves the cursor of an open file by `distance` bytes from the base that
`whence` asks for, and answers where it is then. The descriptor is looked at
before the kind of its object, and that before the base. -/
def seek (pid : Pid) (fd : Descriptor) (distance : Int) (whence : Nat) :
    Action (Service σ κ) Nat := do
  match ← slot pid fd with
  | .stream _ => refuse .illegalSeek
  | .shared id =>
    let object ← objectBehind id
    if object.kind.isSeekable then
      match SeekBase.ofNumber? whence with
      | none => refuse .invalidArgument
      | some whence =>
        let group ← group id
        let s ← get
        let target := (s.basePosition object group.cursor whence : Int) + distance
        if 0 ≤ target ∧ target < wordLimit then
          setCursor id target.toNat
          return target.toNat
        else
          refuse .invalidArgument
    else
      refuse .illegalSeek

end Service

end OpenFiles
