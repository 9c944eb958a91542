import OpenFiles.Service.Basic

/-!
# Opening, closing and duplicating descriptors

An open asks the storage first, then takes a row of the system table, then a
descriptor of the process. Whatever it has taken when a later step refuses is
given back before the refusal is answered: an object that found no row is
released directly, one that found a row but no descriptor through the row.

A duplicate refers to the group of the descriptor it is made from. If its place
was taken, the old descriptor is closed first, once nothing can go wrong with
the new one.
-/

namespace OpenFiles

namespace Service

variable {σ κ : Type}

open OpenFiles.Action

/-- Gives the lowest free descriptor of a process a fresh group on `row`, if there is
memory for the group. -/
def bindFresh (pid : Pid) (row : RowId) (cursor : Nat) (rights : Rights) :
    Action (Service σ κ) Descriptor := do
  let table ← process pid
  let fd ← orRefuse table.freeDescriptor
  let s ← get
  let (answer, groups) := s.tables.groups.create s.allotment row cursor rights ⟨pid, fd⟩
  set (s.withGroups groups)
  let id ← orRefuse answer
  match table.fill fd (.shared id) with
  | .ok table =>
    setProcess pid table
    return fd
  | .error reason =>
    let _ ← leave id ⟨pid, fd⟩
    refuse reason

/-- Refuses a descriptor whose rights do not include everything in `asked`. -/
def requireRights (pid : Pid) (fd : Descriptor) (asked : Rights) :
    Action (Service σ κ) Unit := do
  let rights ←
    match ← slot pid fd with
    | .stream stream => pure stream.rights
    | .shared id => do
      let group ← group id
      pure group.rights
  if rights.cover asked then
    return ()
  else
    refuse .badAccessMode

variable [Storage σ]

/-- Gives back a row and refuses. A process without a free slot is reported. -/
def undoOpen (pid : Pid) (row : RowId) (reason : Error) : Action (Service σ κ) Descriptor := do
  if reason = .tooManyOpen then
    note (.noFreeDescriptor pid)
  let _ ← release row
  refuse reason

/-- Opens a path for a process. The cursor of an appending open starts at the
end of the object, that of any other at its beginning. -/
def openPath (pid : Pid) (path : String) (flags : OpenFlags) (permission : UInt32) :
    Action (Service σ κ) Descriptor := do
  let rights ← orRefuse (Rights.ofOpenFlags flags)
  let _ ← process pid
  match ← onStorage (Storage.openPath path flags permission) with
  | .error reason =>
    note (.openRefused path reason)
    refuse reason
  | .ok object =>
    let s ← get
    match s.tables.system.acquire object with
    | .error reason =>
      note .systemTableFull
      releaseObject object
      refuse reason
    | .ok (row, system) =>
      set (s.withSystem system)
      let cursor := if rights.append then Storage.sizeOf object s.storage else 0
      match ← attempt (bindFresh pid row cursor rights) with
      | .ok fd =>
        note (.opened pid path fd row)
        return fd
      | .error reason => undoOpen pid row reason

/-- Closes a descriptor. Closing a standard stream only empties its slot. -/
def close (pid : Pid) (fd : Descriptor) : Action (Service σ κ) Unit := do
  let table ← process pid
  let (slot, table) ← orRefuse (table.clear fd)
  setProcess pid table
  match slot with
  | .stream _ => return ()
  | .shared id =>
    let row ← leave id ⟨pid, fd⟩
    if ← release row then
      note (.rowReleased row)

/-- Makes `new` refer to what `old` refers to. Both must be in the table and
`old` populated. A descriptor duplicated onto itself is left alone. -/
def duplicate (pid : Pid) (old new : Descriptor) : Action (Service σ κ) Descriptor := do
  let table ← process pid
  orRefuse (table.requireInRange old)
  orRefuse (table.requireInRange new)
  let slot ← orRefuse (table.slot old)
  if old = new then
    return new
  else
    if table.isPopulated new then
      let _ ← attempt (close pid new)
    let table ← process pid
    let table ← orRefuse (table.fill new slot)
    setProcess pid table
    match slot with
    | .stream _ => return new
    | .shared id =>
      let group ← group id
      retain group.row
      join id ⟨pid, new⟩
      return new

end Service

end OpenFiles
