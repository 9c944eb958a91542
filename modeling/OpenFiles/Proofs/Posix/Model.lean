import OpenFiles.Capacities
import OpenFiles.Console.ByteDevice
import OpenFiles.DescriptorTable
import OpenFiles.Proofs.OpenFile
import OpenFiles.Service.Request
import Mathlib.Data.List.Dedup

/-!
# The descriptor model of POSIX

A process is a finite map from descriptors to standard streams and open files, and
that is all. Open files are kept in one list in the order of their opening. They are
never given up, so that a number in the list is a name for good. Nothing is counted
in advance: which files are open, and how often, is read off the maps of the
processes. Closing and ending delete entries of the maps and release nothing.

The model answers each call as the service has to answer it. The refusals come in
the order of the service, and a cursor that would be no word is its fault as well.
-/

namespace OpenFiles

namespace Posix

/-- What a descriptor refers to: a standard stream, or an open file by its number. -/
inductive Target where
  | stream (stream : StandardStream)
  | file (number : Nat)
  deriving DecidableEq

abbrev Descriptors : Type := OrderedMap Descriptor Target

def standard : Descriptors :=
  (((∅ : Descriptors).insert ⟨0⟩ (.stream .input)).insert ⟨1⟩ (.stream .output)).insert ⟨2⟩
    (.stream .errors)

structure State (σ κ : Type) where
  capacities : Capacities
  processes : OrderedMap Pid Descriptors
  files : List OpenFile
  storage : σ
  console : κ

/-- The calls that the model answers. -/
inductive Call where
  | createProcess (pid : Pid)
  | forkProcess (parent child : Pid)
  | endProcess (pid : Pid)
  | openPath (pid : Pid) (path : String) (flags : OpenFlags) (permission : UInt32)
  | close (pid : Pid) (fd : Descriptor)
  | duplicate (pid : Pid) (old new : Descriptor)
  | read (pid : Pid) (fd : Descriptor) (length : Nat)
  | write (pid : Pid) (fd : Descriptor) (data : Bytes)
  | seek (pid : Pid) (fd : Descriptor) (distance : Int) (whence : Nat)
  | tell (pid : Pid) (fd : Descriptor)
  | requireRights (pid : Pid) (fd : Descriptor) (asked : Rights)
  | members (pid : Pid) (fd : Descriptor)
  | handlesOn (object : Object)
  | openObjects
  deriving DecidableEq

/-- The rights that a flag word asks for. Its two low bits are the access mode: 0 is for
reading, 1 for writing, 2 for both, and 3 for nothing. Bit 5 asks for appending. -/
def rightsOf (word : Nat) : Option Rights :=
  match word % 4 with
  | 0 => some ⟨true, false, word.testBit 5⟩
  | 1 => some ⟨false, true, word.testBit 5⟩
  | 2 => some ⟨true, true, word.testBit 5⟩
  | _ => none

/-- The rights on a standard stream. -/
def streamRights : StandardStream → Rights
  | .input => ⟨true, false, false⟩
  | .output => ⟨false, true, false⟩
  | .errors => ⟨false, true, false⟩

/-- Nothing is asked for that is not held. -/
def Permits (held asked : Rights) : Prop :=
  (asked.read → held.read) ∧ (asked.write → held.write) ∧ (asked.append → held.append)

instance (held asked : Rights) : Decidable (Permits held asked) :=
  inferInstanceAs (Decidable (_ ∧ _ ∧ _))

/-- The lowest descriptor above the standard streams that refers to nothing. -/
def lowestFree (descriptors : Descriptors) (size : Nat) : Option Descriptor :=
  ((List.range' DescriptorTable.reserved (size - DescriptorTable.reserved)).find?
    fun number : Nat => (descriptors.get? ⟨number⟩).isNone).map fun number : Nat => ⟨number⟩

/-- The handles that refer to open files, in order, with the numbers of the files. -/
def fileReferences (processes : OrderedMap Pid Descriptors) : List (Handle × Nat) :=
  processes.entries.flatMap fun (pid, descriptors) =>
    descriptors.entries.filterMap fun (fd, target) =>
      match target with
      | .stream _ => none
      | .file number => some (⟨pid, fd⟩, number)

namespace State

variable {σ κ : Type}

def initial (capacities : Capacities) (storage : σ) (console : κ) : State σ κ :=
  ⟨capacities, ∅, [], storage, console⟩

/-- The answer to a refused call, which changes nothing more. -/
def refuse (m : State σ κ) (reason : Error) : Except Stop Reply × State σ κ :=
  (.error (.refused reason), m)

def inode? (m : State σ κ) (number : Nat) : Option Inode :=
  (m.files[number]?).map fun file => file.object.inode

/-- The inode numbers that are open, each once. -/
def openInodes (m : State σ κ) : List Inode :=
  ((fileReferences m.processes).filterMap fun ref => m.inode? ref.2).dedup

/-- The number of descriptors on an inode number, over all processes. -/
def descriptorsOn (m : State σ κ) (inode : Inode) : Nat :=
  (fileReferences m.processes).countP fun ref => m.inode? ref.2 = some inode

/-- The handles that refer to an open file, in order. -/
def sharers (m : State σ κ) (number : Nat) : List Handle :=
  ((fileReferences m.processes).filter fun ref => ref.2 = number).map Prod.fst

def withDescriptors (m : State σ κ) (pid : Pid) (descriptors : Descriptors) : State σ κ :=
  { m with processes := m.processes.insert pid descriptors }

def withCursor (m : State σ κ) (number cursor : Nat) : State σ κ :=
  { m with files := m.files.modify number fun file => { file with cursor := cursor } }

/-- Answers a transfer of `count` bytes from `start` on, and moves the cursor behind
them. A cursor that would be no word is a fault. -/
def transferred (m : State σ κ) (number start count : Nat) (reply : Reply) :
    Except Stop Reply × State σ κ :=
  if start + count < wordLimit then (.ok reply, m.withCursor number (start + count))
  else (.error (.faulted .wordOverflow), m)

def target (m : State σ κ) (pid : Pid) (fd : Descriptor) : Except Error Target :=
  match m.processes.get? pid with
  | none => .error .noSuchEntry
  | some descriptors =>
    match descriptors.get? fd with
    | none => .error .badDescriptor
    | some target => .ok target

def file (m : State σ κ) (number : Nat) : Except Error OpenFile :=
  match m.files[number]? with
  | none => .error .badDescriptor
  | some file => .ok file

/-- Answers a call on a descriptor: a refusal if it refers to nothing, else by what is
said for streams and for open files. -/
def on (m : State σ κ) (pid : Pid) (fd : Descriptor)
    (onStream : StandardStream → Except Stop Reply × State σ κ)
    (onFile : Nat → OpenFile → Except Stop Reply × State σ κ) : Except Stop Reply × State σ κ :=
  match m.target pid fd with
  | .error reason => m.refuse reason
  | .ok (.stream stream) => onStream stream
  | .ok (.file number) =>
    match m.file number with
    | .error reason => m.refuse reason
    | .ok file => onFile number file

/-- A new process has the standard streams and nothing else. -/
def createProcess (m : State σ κ) (pid : Pid) : Except Stop Reply × State σ κ :=
  if m.processes.contains pid then m.refuse .busy
  else (.ok .done, m.withDescriptors pid standard)

/-- A forked process has the descriptors of its parent. -/
def forkProcess (m : State σ κ) (parent child : Pid) : Except Stop Reply × State σ κ :=
  match m.processes.get? parent with
  | none => m.refuse .noSuchEntry
  | some descriptors =>
    if m.processes.contains child then m.refuse .busy
    else (.ok .done, m.withDescriptors child descriptors)

/-- A process that ends takes its descriptors along. -/
def endProcess (m : State σ κ) (pid : Pid) : Except Stop Reply × State σ κ :=
  match m.processes.get? pid with
  | none => m.refuse .noSuchEntry
  | some _ => (.ok .done, { m with processes := m.processes.erase pid })

def close (m : State σ κ) (pid : Pid) (fd : Descriptor) : Except Stop Reply × State σ κ :=
  match m.processes.get? pid with
  | none => m.refuse .noSuchEntry
  | some descriptors =>
    match descriptors.get? fd with
    | none => m.refuse .badDescriptor
    | some _ => (.ok .done, m.withDescriptors pid (descriptors.erase fd))

/-- A duplicate refers to what the old descriptor refers to. -/
def duplicate (m : State σ κ) (pid : Pid) (old new : Descriptor) :
    Except Stop Reply × State σ κ :=
  match m.processes.get? pid with
  | none => m.refuse .noSuchEntry
  | some descriptors =>
    match descriptors.get? old with
    | none => m.refuse .badDescriptor
    | some target =>
      if 0 ≤ new.number ∧ new.number < m.capacities.processSlots then
        (.ok (.descriptor new), m.withDescriptors pid (descriptors.insert new target))
      else m.refuse .badDescriptor

def tell (m : State σ κ) (pid : Pid) (fd : Descriptor) : Except Stop Reply × State σ κ :=
  m.on pid fd (fun _ => m.refuse .illegalSeek) fun _ file => (.ok (.number file.cursor), m)

def requireRights (m : State σ κ) (pid : Pid) (fd : Descriptor) (asked : Rights) :
    Except Stop Reply × State σ κ :=
  let answer (rights : Rights) :=
    if Permits rights asked then (.ok .done, m) else m.refuse .badAccessMode
  m.on pid fd (fun stream => answer (streamRights stream)) fun _ file => answer file.rights

/-- The handles that refer to the same open file. A stream is shared with none. -/
def members (m : State σ κ) (pid : Pid) (fd : Descriptor) : Except Stop Reply × State σ κ :=
  m.on pid fd (fun _ => (.ok (.handles [⟨pid, fd⟩]), m)) fun number _ =>
    (.ok (.handles (m.sharers number)), m)

variable [Storage σ]

/-- Brings an object that the storage opened to the lowest free descriptor, as a file
of its own. It is refused if its inode number would be one too many, or if there is
no such descriptor. -/
def install (m : State σ κ) (pid : Pid) (descriptors : Descriptors) (object : Object)
    (rights : Rights) : Except Stop Reply × State σ κ :=
  if object.inode ∉ m.openInodes ∧ m.openInodes.length = m.capacities.systemRows then
    m.refuse .tooManyOpenInSystem
  else
    match lowestFree descriptors m.capacities.processSlots with
    | none => m.refuse .tooManyOpen
    | some fd =>
      let cursor := if rights.append then Storage.sizeOf object m.storage else 0
      let opened : State σ κ := { m with files := m.files ++ [⟨object, cursor, rights⟩] }
      (.ok (.descriptor fd),
        opened.withDescriptors pid (descriptors.insert fd (.file m.files.length)))

/-- Opens a path. The storage is asked before anything is known about room. -/
def openPath (m : State σ κ) (pid : Pid) (path : String) (flags : OpenFlags)
    (permission : UInt32) : Except Stop Reply × State σ κ :=
  match rightsOf flags.bits with
  | none => m.refuse .invalidArgument
  | some rights =>
    match m.processes.get? pid with
    | none => m.refuse .noSuchEntry
    | some descriptors =>
      match Storage.openPath path flags permission m.storage with
      | (.error reason, store) => ({ m with storage := store } : State σ κ).refuse reason
      | (.ok object, store) =>
        ({ m with storage := store } : State σ κ).install pid descriptors object rights

def base (m : State σ κ) (file : OpenFile) : SeekBase → Nat
  | .start => 0
  | .current => file.cursor
  | .finish => Storage.sizeOf file.object m.storage

def seek (m : State σ κ) (pid : Pid) (fd : Descriptor) (distance : Int) (whence : Nat) :
    Except Stop Reply × State σ κ :=
  m.on pid fd (fun _ => m.refuse .illegalSeek) fun number file =>
    if file.object.kind.isSeekable then
      match SeekBase.ofNumber? whence with
      | none => m.refuse .invalidArgument
      | some whence =>
        let position := (m.base file whence : Int) + distance
        if 0 ≤ position ∧ position < wordLimit then
          (.ok (.number position.toNat), m.withCursor number position.toNat)
        else m.refuse .invalidArgument
    else m.refuse .illegalSeek

variable [ByteDevice κ]

/-- Reads from the cursor of an open file on, or from the console. -/
def read (m : State σ κ) (pid : Pid) (fd : Descriptor) (length : Nat) :
    Except Stop Reply × State σ κ :=
  m.on pid fd
    (fun stream =>
      if (streamRights stream).read then
        match ByteDevice.read length m.console with
        | (.error reason, console) => ({ m with console := console } : State σ κ).refuse reason
        | (.ok data, console) => (.ok (.data data), { m with console := console })
      else m.refuse .badAccessMode)
    fun number file =>
      if file.rights.read then
        if length = 0 then (.ok (.data []), m)
        else
          match Storage.readAt file.object file.cursor length m.storage with
          | .error reason => m.refuse reason
          | .ok data => m.transferred number file.cursor data.length (.data data)
      else m.refuse .badAccessMode

/-- Writes from the cursor of an open file on, from its end for an appending one, or
to the console. -/
def write (m : State σ κ) (pid : Pid) (fd : Descriptor) (data : Bytes) :
    Except Stop Reply × State σ κ :=
  m.on pid fd
    (fun stream =>
      if (streamRights stream).write then
        match ByteDevice.write data m.console with
        | (.error reason, console) => ({ m with console := console } : State σ κ).refuse reason
        | (.ok count, console) => (.ok (.number count), { m with console := console })
      else m.refuse .badAccessMode)
    fun number file =>
      if file.rights.write then
        if data = [] then (.ok (.number 0), m)
        else
          match Storage.writeAt file.object (file.start m.storage) data m.storage with
          | (.error reason, store) => ({ m with storage := store } : State σ κ).refuse reason
          | (.ok count, store) =>
            ({ m with storage := store } : State σ κ).transferred number (file.start m.storage)
              count (.number count)
      else m.refuse .badAccessMode

def call (m : State σ κ) : Call → Except Stop Reply × State σ κ
  | .createProcess pid => m.createProcess pid
  | .forkProcess parent child => m.forkProcess parent child
  | .endProcess pid => m.endProcess pid
  | .openPath pid path flags permission => m.openPath pid path flags permission
  | .close pid fd => m.close pid fd
  | .duplicate pid old new => m.duplicate pid old new
  | .read pid fd length => m.read pid fd length
  | .write pid fd data => m.write pid fd data
  | .seek pid fd distance whence => m.seek pid fd distance whence
  | .tell pid fd => m.tell pid fd
  | .requireRights pid fd asked => m.requireRights pid fd asked
  | .members pid fd => m.members pid fd
  | .handlesOn object => (.ok (.number (m.descriptorsOn object.inode)), m)
  | .openObjects => (.ok (.number m.openInodes.length), m)

def answers (m : State σ κ) : List Call → List (Except Stop Reply)
  | [] => []
  | call :: rest => (m.call call).1 :: (m.call call).2.answers rest

end State

end Posix

namespace Service

variable {σ κ : Type} [Storage σ] [ByteDevice κ]

def serve : Posix.Call → Action (Service σ κ) Reply
  | .createProcess pid => perform (.createProcess pid)
  | .forkProcess parent child => perform (.forkProcess parent child)
  | .endProcess pid => perform (.endProcess pid)
  | .openPath pid path flags permission => perform (.openPath pid path flags permission)
  | .close pid fd => perform (.close pid fd)
  | .duplicate pid old new => perform (.duplicate pid old new)
  | .read pid fd length => perform (.read pid fd length)
  | .write pid fd data => perform (.write pid fd data)
  | .seek pid fd distance whence => perform (.seek pid fd distance whence)
  | .tell pid fd => perform (.tell pid fd)
  | .requireRights pid fd asked => perform (.requireRights pid fd asked)
  | .members pid fd => perform (.members pid fd)
  | .handlesOn object => do
    let s ← get
    return .number (s.handlesOn object)
  | .openObjects => do
    let s ← get
    return .number s.openObjects

def served (s : Service σ κ) (calls : List Posix.Call) : Service σ κ :=
  calls.foldl (fun s call => ((serve call).outcome s).2) s

def answers (s : Service σ κ) : List Posix.Call → List (Except Stop Reply)
  | [] => []
  | call :: rest => ((serve call).outcome s).1 :: ((serve call).outcome s).2.answers rest

end Service

end OpenFiles
