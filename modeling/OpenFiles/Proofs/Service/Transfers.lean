import OpenFiles.Proofs.Service.Closing
import OpenFiles.Proofs.Tables.Entries
import OpenFiles.Service.Paths
import OpenFiles.Service.Queries
import OpenFiles.Service.Transfer

/-!
# What transfers, seeks and questions can do

An operation on a descriptor first finds out what it refers to. `Unresolved` says
how that can fail. From balanced tables it fails in no other way: a slot that
refers to a group shows an open file. Beyond that a transfer changes at most the
cursor of the one group, and only if the storage has not refused.

The one fault left is a cursor that would leave the range of words.
-/

namespace OpenFiles

namespace Tables

/-- Why nothing is behind a handle. -/
inductive Unresolved (tables : Tables) (handle : Handle) : Error → Prop
  | unknown (missing : tables.processes.get? handle.pid = none) :
      Unresolved tables handle .noSuchEntry
  | empty {table : DescriptorTable} (found : tables.processes.get? handle.pid = some table)
      (empty : table.slot? handle.descriptor = none) : Unresolved tables handle .badDescriptor

variable {tables : Tables} {handle : Handle} {id : GroupId}

theorem Unresolved.slot? {reason : Error} (why : tables.Unresolved handle reason) :
    tables.slot? handle = none := by
  cases why with
  | unknown missing => rw [Tables.slot?, missing]; rfl
  | empty found empty =>
      rw [Tables.slot?, found]
      exact empty

theorem mem_references_iff :
    (handle, id) ∈ tables.references ↔ tables.slot? handle = some (.shared id) :=
  mem_referencesOf_iff

/-- A slot that refers to a group shows an open file. -/
theorem Balanced.exists_file (balanced : tables.Balanced)
    (slot : tables.slot? handle = some (.shared id)) : ∃ file, tables.file? id = some file :=
  Accounts.exists_file balanced (mem_references_iff.mpr slot)

def rights? (tables : Tables) (handle : Handle) : Option Rights :=
  match tables.slot? handle with
  | some (.stream stream) => some stream.rights
  | some (.shared id) => (tables.file? id).map OpenFile.rights
  | none => none

end Tables

namespace Service

variable {σ κ : Type} {s : Service σ κ} {pid : Pid} {fd : Descriptor} {id : GroupId}
variable {file : OpenFile}

open OpenFiles.Action

theorem run_slot_cases (s : Service σ κ) (pid : Pid) (fd : Descriptor) :
    (∃ reason, s.tables.Unresolved ⟨pid, fd⟩ reason ∧
        (slot pid fd).run s = .error (.refused reason) s) ∨
      ∃ contents, s.tables.slot? ⟨pid, fd⟩ = some contents ∧
        (slot pid fd).run s = .ok contents s := by
  cases found : s.tables.processes.get? pid with
  | none =>
      refine .inl ⟨_, .unknown found, ?_⟩
      rw [run_slot, found]
  | some table =>
      cases there : table.slot? fd with
      | none =>
          refine .inl ⟨_, .empty found there, ?_⟩
          rw [run_slot, found]
          simp only [there]
      | some contents =>
          refine .inr ⟨contents, ?_, ?_⟩
          · rw [Tables.slot?, found]
            exact there
          · rw [run_slot, found]
            simp only [there]

theorem run_group_of_file? (shown : s.tables.file? id = some file) :
    ∃ behind, (group id).run s = .ok behind s ∧ s.tables.groups.group? id = some behind ∧
      behind.cursor = file.cursor ∧ behind.rights = file.rights := by
  obtain ⟨group, live, _, cursor, rights⟩ := Tables.file?_eq_some.mp shown
  refine ⟨group, ?_, live, cursor, rights⟩
  rw [run_group, live]

theorem run_objectBehind_of_file? (shown : s.tables.file? id = some file) :
    (objectBehind id).run s = .ok file.object s := by
  obtain ⟨group, live, held, _, _⟩ := Tables.file?_eq_some.mp shown
  obtain ⟨holding, found, same⟩ := Option.map_eq_some_iff.mp held
  rw [run_objectBehind, live]
  simp only [found, same]

theorem run_setCursor_of_repositioning {cursor : Nat} {refs : List Reference} {after : Tables}
    (repositioning : Tables.Repositioning s.tables id cursor refs after) :
    (setCursor id cursor).run s = .ok () (s.withTables after) := by
  have system := repositioning.system
  have processes := repositioning.processes
  have step := repositioning.step
  obtain ⟨_, groups, _⟩ := after
  subst system processes
  rw [run_setCursor, step]
  rfl

theorem run_advance {refs : List Reference} {start count : Nat} {after : Tables}
    (inside : start + count < wordLimit)
    (repositioning : Tables.Repositioning s.tables id (start + count) refs after) :
    (advance id start count).run s = .ok () (s.withTables after) := by
  rw [advance, if_pos inside]
  exact run_setCursor_of_repositioning repositioning

theorem run_advance_overflow {start count : Nat} (outside : ¬ start + count < wordLimit) :
    (advance id start count).run s = .error (.faulted .wordOverflow) s := by
  rw [advance, if_neg outside]
  rfl

inductive Telling (s : Service σ κ) (pid : Pid) (fd : Descriptor) :
    EStateM.Result Stop (Service σ κ) Nat → Prop
  | unresolved {reason : Error} (why : s.tables.Unresolved ⟨pid, fd⟩ reason) :
      Telling s pid fd (.error (.refused reason) s)
  | stream {stream : StandardStream} (slot : s.tables.slot? ⟨pid, fd⟩ = some (.stream stream)) :
      Telling s pid fd (.error (.refused .illegalSeek) s)
  | told {id : GroupId} {file : OpenFile} (slot : s.tables.slot? ⟨pid, fd⟩ = some (.shared id))
      (shown : s.tables.file? id = some file) : Telling s pid fd (.ok file.cursor s)

theorem telling (balanced : s.tables.Balanced) : Telling s pid fd ((tell pid fd).run s) := by
  obtain ⟨reason, why, run⟩ | ⟨contents, there, run⟩ := run_slot_cases s pid fd
  · simp only [tell, EStateM.run_bind, run]
    exact .unresolved why
  · simp only [tell, EStateM.run_bind, run]
    cases contents with
    | stream stream => exact .stream there
    | shared id =>
        obtain ⟨file, shown⟩ := balanced.exists_file there
        obtain ⟨group, looked, _, cursor, _⟩ := run_group_of_file? shown
        simp only [EStateM.run_bind, looked, EStateM.run_pure, cursor]
        exact .told there shown

inductive Checking (s : Service σ κ) (pid : Pid) (fd : Descriptor) (asked : Rights) :
    EStateM.Result Stop (Service σ κ) Unit → Prop
  | unresolved {reason : Error} (why : s.tables.Unresolved ⟨pid, fd⟩ reason) :
      Checking s pid fd asked (.error (.refused reason) s)
  | forbidden {rights : Rights} (given : s.tables.rights? ⟨pid, fd⟩ = some rights)
      (lacking : rights.cover asked = false) :
      Checking s pid fd asked (.error (.refused .badAccessMode) s)
  | allowed {rights : Rights} (given : s.tables.rights? ⟨pid, fd⟩ = some rights)
      (covered : rights.cover asked = true) : Checking s pid fd asked (.ok () s)

theorem checking (balanced : s.tables.Balanced) (asked : Rights) :
    Checking s pid fd asked ((requireRights pid fd asked).run s) := by
  obtain ⟨reason, why, run⟩ | ⟨contents, there, run⟩ := run_slot_cases s pid fd
  · simp only [requireRights, EStateM.run_bind, run]
    exact .unresolved why
  · have answer (rights : Rights) (given : s.tables.rights? ⟨pid, fd⟩ = some rights) :
        Checking s pid fd asked
          ((if rights.cover asked = true then pure () else refuse .badAccessMode :
            Action (Service σ κ) Unit).run s) := by
      cases covered : rights.cover asked with
      | true => exact .allowed given covered
      | false => exact .forbidden given covered
    simp only [requireRights, EStateM.run_bind, run]
    cases contents with
    | stream stream =>
        refine answer stream.rights ?_
        simp only [Tables.rights?, there]
    | shared id =>
        obtain ⟨file, shown⟩ := balanced.exists_file there
        obtain ⟨group, looked, _, _, rights⟩ := run_group_of_file? shown
        simp only [EStateM.run_bind, looked, EStateM.run_pure]
        refine answer group.rights ?_
        simp only [Tables.rights?, there, shown, rights, Option.map_some]

inductive Listing (s : Service σ κ) (pid : Pid) (fd : Descriptor) :
    EStateM.Result Stop (Service σ κ) (List Handle) → Prop
  | unresolved {reason : Error} (why : s.tables.Unresolved ⟨pid, fd⟩ reason) :
      Listing s pid fd (.error (.refused reason) s)
  | stream {stream : StandardStream} (slot : s.tables.slot? ⟨pid, fd⟩ = some (.stream stream)) :
      Listing s pid fd (.ok [⟨pid, fd⟩] s)
  | shared {id : GroupId} {members : OrderedSet Handle}
      (slot : s.tables.slot? ⟨pid, fd⟩ = some (.shared id))
      (enrolled : ∀ handle, handle ∈ members ↔ s.tables.slot? handle = some (.shared id)) :
      Listing s pid fd (.ok members.elements s)

theorem listing (balanced : s.tables.Balanced) : Listing s pid fd ((members pid fd).run s) := by
  obtain ⟨reason, why, run⟩ | ⟨contents, there, run⟩ := run_slot_cases s pid fd
  · simp only [members, EStateM.run_bind, run]
    exact .unresolved why
  · simp only [members, EStateM.run_bind, run]
    cases contents with
    | stream stream => exact .stream there
    | shared id =>
        obtain ⟨file, shown⟩ := balanced.exists_file there
        obtain ⟨group, looked, live, _, _⟩ := run_group_of_file? shown
        simp only [EStateM.run_bind, looked, EStateM.run_pure]
        refine .shared there ?_
        intro handle
        rw [← Tables.mem_references_iff, balanced.enrolled]
        simp only [live, Option.some.injEq, exists_eq_left']

variable [Storage σ]

inductive Removing (s : Service σ κ) (path : String) :
    EStateM.Result Stop (Service σ κ) Unit → Prop
  | removed {store : σ} (answer : Storage.removePath path s.storage = (.ok (), store)) :
      Removing s path (.ok () (s.withStorage store))
  | refused {reason : Error} {store : σ} {journal : Journal}
      (answer : Storage.removePath path s.storage = (.error reason, store)) :
      Removing s path
        (.error (.refused .operationNotPermitted) ((s.withStorage store).withJournal journal))

theorem removing (s : Service σ κ) (path : String) : Removing s path ((remove path).run s) := by
  cases answer : Storage.removePath path s.storage with
  | mk verdict store =>
      cases verdict with
      | ok _ =>
          simp only [remove, EStateM.run_bind, run_onStorage, answer]
          exact .removed answer
      | error reason =>
          simp only [remove, EStateM.run_bind, run_onStorage, answer, run_note, run_refuse]
          exact .refused answer

inductive Seeking (s : Service σ κ) (pid : Pid) (fd : Descriptor) (distance : Int)
    (whence : Nat) : EStateM.Result Stop (Service σ κ) Nat → Prop
  | unresolved {reason : Error} (why : s.tables.Unresolved ⟨pid, fd⟩ reason) :
      Seeking s pid fd distance whence (.error (.refused reason) s)
  | stream {stream : StandardStream} (slot : s.tables.slot? ⟨pid, fd⟩ = some (.stream stream)) :
      Seeking s pid fd distance whence (.error (.refused .illegalSeek) s)
  | unseekable {id : GroupId} {file : OpenFile}
      (slot : s.tables.slot? ⟨pid, fd⟩ = some (.shared id))
      (shown : s.tables.file? id = some file) (positionless : file.object.kind.isSeekable = false) :
      Seeking s pid fd distance whence (.error (.refused .illegalSeek) s)
  | baseless {id : GroupId} {file : OpenFile}
      (slot : s.tables.slot? ⟨pid, fd⟩ = some (.shared id))
      (shown : s.tables.file? id = some file) (seekable : file.object.kind.isSeekable = true)
      (unknown : SeekBase.ofNumber? whence = none) :
      Seeking s pid fd distance whence (.error (.refused .invalidArgument) s)
  | outside {id : GroupId} {file : OpenFile} {base : SeekBase}
      (slot : s.tables.slot? ⟨pid, fd⟩ = some (.shared id))
      (shown : s.tables.file? id = some file) (seekable : file.object.kind.isSeekable = true)
      (asked : SeekBase.ofNumber? whence = some base)
      (outside : ¬ (0 ≤ (s.basePosition file.object file.cursor base : Int) + distance ∧
        (s.basePosition file.object file.cursor base : Int) + distance < wordLimit)) :
      Seeking s pid fd distance whence (.error (.refused .invalidArgument) s)
  | moved {id : GroupId} {file : OpenFile} {base : SeekBase} {target : Nat} {after : Tables}
      (slot : s.tables.slot? ⟨pid, fd⟩ = some (.shared id))
      (shown : s.tables.file? id = some file) (seekable : file.object.kind.isSeekable = true)
      (asked : SeekBase.ofNumber? whence = some base)
      (exact : (target : Int) = s.basePosition file.object file.cursor base + distance)
      (inside : target < wordLimit)
      (repositioning : Tables.Repositioning s.tables id target s.tables.references after) :
      Seeking s pid fd distance whence (.ok target (s.withTables after))

/-- Moves the cursor of a group to a position, unless that is no word. -/
def settle (id : GroupId) (position : Int) : Action (Service σ κ) Nat :=
  if 0 ≤ position ∧ position < wordLimit then
    setCursor id position.toNat >>= fun _ => pure position.toNat
  else refuse .invalidArgument

/-- A seek, once the open file behind the descriptor is known. -/
theorem run_seek_of_file? (there : s.tables.slot? ⟨pid, fd⟩ = some (.shared id))
    (shown : s.tables.file? id = some file) (distance : Int) (whence : Nat) :
    (seek pid fd distance whence).run s =
      (if file.object.kind.isSeekable then
        match SeekBase.ofNumber? whence with
        | none => refuse .invalidArgument
        | some base => settle id (s.basePosition file.object file.cursor base + distance)
      else refuse .illegalSeek : Action (Service σ κ) Nat).run s := by
  obtain ⟨reason, why, _⟩ | ⟨contents, found, run⟩ := run_slot_cases s pid fd
  · cases why.slot?.symm.trans there
  · cases found.symm.trans there
    obtain ⟨group, looked, _, cursor, _⟩ := run_group_of_file? shown
    simp only [seek, EStateM.run_bind, run, run_objectBehind_of_file? shown]
    cases file.object.kind.isSeekable with
    | false => rfl
    | true =>
        cases SeekBase.ofNumber? whence with
        | none => rfl
        | some base =>
            simp only [if_true, EStateM.run_bind, looked, EStateM.run_get, cursor, settle]

theorem seeking (balanced : s.tables.Balanced) (distance : Int) (whence : Nat) :
    Seeking s pid fd distance whence ((seek pid fd distance whence).run s) := by
  obtain ⟨reason, why, run⟩ | ⟨contents, there, run⟩ := run_slot_cases s pid fd
  · simp only [seek, EStateM.run_bind, run]
    exact .unresolved why
  · cases contents with
    | stream stream =>
        simp only [seek, EStateM.run_bind, run]
        exact .stream there
    | shared id =>
        obtain ⟨file, shown⟩ := balanced.exists_file there
        rw [run_seek_of_file? there shown]
        cases seekable : file.object.kind.isSeekable with
        | false => exact .unseekable there shown seekable
        | true =>
            cases asked : SeekBase.ofNumber? whence with
            | none => exact .baseless there shown seekable asked
            | some base =>
                simp only [if_true, settle]
                generalize target : (s.basePosition file.object file.cursor base : Int) + distance =
                  position
                by_cases inside : 0 ≤ position ∧ position < wordLimit
                · have member := Tables.mem_references_iff.mpr there
                  obtain ⟨after, moves⟩ := Tables.Accounts.repositioning balanced member
                    position.toNat
                  rw [if_pos inside]
                  simp only [EStateM.run_bind, run_setCursor_of_repositioning moves,
                    EStateM.run_pure]
                  refine .moved there shown seekable asked ?_ ?_ moves
                  · rw [target]
                    omega
                  · omega
                · rw [if_neg inside]
                  exact .outside there shown seekable asked (by rwa [target])

theorem run_readShared_zero (shown : s.tables.file? id = some file)
    (readable : file.rights.read = true) : (readShared id 0).run s = .ok [] s := by
  obtain ⟨group, looked, _, _, rights⟩ := run_group_of_file? shown
  simp only [readShared, EStateM.run_bind, looked, rights, readable, Bool.not_true,
    Bool.false_eq_true, if_false, if_true, EStateM.run_pure]

/-- A read of some bytes, through a group that may read. -/
theorem run_readShared {length : Nat} (shown : s.tables.file? id = some file)
    (readable : file.rights.read = true) (positive : length ≠ 0) :
    (readShared id length).run s =
      (orRefuse (Storage.readAt file.object file.cursor length s.storage) >>= fun data =>
        advance id file.cursor data.length >>= fun _ => pure data).run s := by
  obtain ⟨group, looked, _, cursor, rights⟩ := run_group_of_file? shown
  simp only [readShared, EStateM.run_bind, looked, cursor, rights, readable, Bool.not_true,
    Bool.false_eq_true, if_false, if_neg positive, run_objectBehind_of_file? shown,
    EStateM.run_get, Object.read]

/-- A write of some bytes, through a group that may write. -/
theorem run_writeShared {data : Bytes} (shown : s.tables.file? id = some file)
    (writable : file.rights.write = true) (positive : data ≠ []) :
    (writeShared id data).run s =
      (onStorage (Storage.writeAt file.object (file.start s.storage) data) >>= fun answer =>
        orRefuse answer >>= fun count =>
          advance id (file.start s.storage) count >>= fun _ => pure count).run s := by
  obtain ⟨group, looked, _, cursor, rights⟩ := run_group_of_file? shown
  have start : (if file.rights.append then Storage.sizeOf file.object s.storage
      else file.cursor) = file.start s.storage := rfl
  simp only [writeShared, EStateM.run_bind, looked, cursor, rights, writable, Bool.not_true,
    Bool.false_eq_true, if_false, if_neg positive, run_objectBehind_of_file? shown,
    EStateM.run_get, run_onStorage, Object.write, start]

variable [ByteDevice κ]

theorem run_read_of_slot (there : s.tables.slot? ⟨pid, fd⟩ = some (.shared id)) (length : Nat) :
    (read pid fd length).run s = (readShared id length).run s := by
  obtain ⟨reason, why, _⟩ | ⟨contents, found, run⟩ := run_slot_cases s pid fd
  · cases why.slot?.symm.trans there
  · cases found.symm.trans there
    simp only [read, EStateM.run_bind, run]

theorem run_write_of_slot (there : s.tables.slot? ⟨pid, fd⟩ = some (.shared id)) (data : Bytes) :
    (write pid fd data).run s = (writeShared id data).run s := by
  obtain ⟨reason, why, _⟩ | ⟨contents, found, run⟩ := run_slot_cases s pid fd
  · cases why.slot?.symm.trans there
  · cases found.symm.trans there
    simp only [write, EStateM.run_bind, run]

inductive Reading (s : Service σ κ) (pid : Pid) (fd : Descriptor) (length : Nat) :
    EStateM.Result Stop (Service σ κ) Bytes → Prop
  | unresolved {reason : Error} (why : s.tables.Unresolved ⟨pid, fd⟩ reason) :
      Reading s pid fd length (.error (.refused reason) s)
  | forbidden {rights : Rights} (given : s.tables.rights? ⟨pid, fd⟩ = some rights)
      (lacking : rights.read = false) :
      Reading s pid fd length (.error (.refused .badAccessMode) s)
  | consoleRefused {stream : StandardStream} {reason : Error} {console : κ}
      (slot : s.tables.slot? ⟨pid, fd⟩ = some (.stream stream))
      (readable : stream.rights.read = true)
      (answer : ByteDevice.read length s.console = (.error reason, console)) :
      Reading s pid fd length (.error (.refused reason) (s.withConsole console))
  | console {stream : StandardStream} {data : Bytes} {console : κ}
      (slot : s.tables.slot? ⟨pid, fd⟩ = some (.stream stream))
      (readable : stream.rights.read = true)
      (answer : ByteDevice.read length s.console = (.ok data, console)) :
      Reading s pid fd length (.ok data (s.withConsole console))
  | nothing {id : GroupId} {file : OpenFile}
      (slot : s.tables.slot? ⟨pid, fd⟩ = some (.shared id))
      (shown : s.tables.file? id = some file) (readable : file.rights.read = true)
      (zero : length = 0) : Reading s pid fd length (.ok [] s)
  | refused {id : GroupId} {file : OpenFile} {reason : Error}
      (slot : s.tables.slot? ⟨pid, fd⟩ = some (.shared id))
      (shown : s.tables.file? id = some file) (readable : file.rights.read = true)
      (positive : length ≠ 0)
      (answer : Storage.readAt file.object file.cursor length s.storage = .error reason) :
      Reading s pid fd length (.error (.refused reason) s)
  | overflow {id : GroupId} {file : OpenFile} {data : Bytes}
      (slot : s.tables.slot? ⟨pid, fd⟩ = some (.shared id))
      (shown : s.tables.file? id = some file) (readable : file.rights.read = true)
      (positive : length ≠ 0)
      (answer : Storage.readAt file.object file.cursor length s.storage = .ok data)
      (outside : ¬ file.cursor + data.length < wordLimit) :
      Reading s pid fd length (.error (.faulted .wordOverflow) s)
  | moved {id : GroupId} {file : OpenFile} {data : Bytes} {after : Tables}
      (slot : s.tables.slot? ⟨pid, fd⟩ = some (.shared id))
      (shown : s.tables.file? id = some file) (readable : file.rights.read = true)
      (positive : length ≠ 0)
      (answer : Storage.readAt file.object file.cursor length s.storage = .ok data)
      (inside : file.cursor + data.length < wordLimit)
      (repositioning : Tables.Repositioning s.tables id (file.cursor + data.length)
        s.tables.references after) :
      Reading s pid fd length (.ok data (s.withTables after))

theorem reading_shared (balanced : s.tables.Balanced) (length : Nat)
    (there : s.tables.slot? ⟨pid, fd⟩ = some (.shared id)) :
    Reading s pid fd length ((readShared id length).run s) := by
  obtain ⟨file, shown⟩ := balanced.exists_file there
  obtain ⟨group, looked, _, _, rights⟩ := run_group_of_file? shown
  cases readable : file.rights.read with
  | false =>
      simp only [readShared, EStateM.run_bind, looked, rights, readable]
      refine Reading.forbidden ?_ readable
      simp only [Tables.rights?, there, shown, Option.map_some]
  | true =>
      by_cases zero : length = 0
      · rw [zero, run_readShared_zero shown readable]
        exact .nothing there shown readable rfl
      · rw [run_readShared shown readable zero]
        simp only [EStateM.run_bind]
        cases answer : Storage.readAt file.object file.cursor length s.storage with
        | error reason => exact .refused there shown readable zero answer
        | ok data =>
            simp only [orRefuse_ok, EStateM.run_pure]
            by_cases inside : file.cursor + data.length < wordLimit
            · have member := Tables.mem_references_iff.mpr there
              obtain ⟨after, moves⟩ := Tables.Accounts.repositioning balanced member
                (file.cursor + data.length)
              rw [run_advance inside moves]
              exact .moved there shown readable zero answer inside moves
            · rw [run_advance_overflow inside]
              exact .overflow there shown readable zero answer inside

theorem reading (balanced : s.tables.Balanced) (length : Nat) :
    Reading s pid fd length ((read pid fd length).run s) := by
  obtain ⟨reason, why, run⟩ | ⟨contents, there, run⟩ := run_slot_cases s pid fd
  · simp only [read, EStateM.run_bind, run]
    exact .unresolved why
  · simp only [read, EStateM.run_bind, run]
    cases contents with
    | shared id => exact reading_shared balanced length there
    | stream stream =>
        cases readable : stream.rights.read with
        | false =>
            have given : s.tables.rights? ⟨pid, fd⟩ = some stream.rights := by
              simp only [Tables.rights?, there]
            simp only [readable, Bool.false_eq_true, if_false, run_refuse]
            exact .forbidden given readable
        | true =>
            simp only [readable, if_true, EStateM.run_bind, run_onConsole]
            cases answer : ByteDevice.read length s.console with
            | mk verdict console =>
                cases verdict with
                | error reason => exact .consoleRefused there readable answer
                | ok data => exact .console there readable answer

inductive Writing (s : Service σ κ) (pid : Pid) (fd : Descriptor) (data : Bytes) :
    EStateM.Result Stop (Service σ κ) Nat → Prop
  | unresolved {reason : Error} (why : s.tables.Unresolved ⟨pid, fd⟩ reason) :
      Writing s pid fd data (.error (.refused reason) s)
  | forbidden {rights : Rights} (given : s.tables.rights? ⟨pid, fd⟩ = some rights)
      (lacking : rights.write = false) :
      Writing s pid fd data (.error (.refused .badAccessMode) s)
  | consoleRefused {stream : StandardStream} {reason : Error} {console : κ}
      (slot : s.tables.slot? ⟨pid, fd⟩ = some (.stream stream))
      (writable : stream.rights.write = true)
      (answer : ByteDevice.write data s.console = (.error reason, console)) :
      Writing s pid fd data (.error (.refused reason) (s.withConsole console))
  | console {stream : StandardStream} {count : Nat} {console : κ}
      (slot : s.tables.slot? ⟨pid, fd⟩ = some (.stream stream))
      (writable : stream.rights.write = true)
      (answer : ByteDevice.write data s.console = (.ok count, console)) :
      Writing s pid fd data (.ok count (s.withConsole console))
  | nothing {id : GroupId} {file : OpenFile}
      (slot : s.tables.slot? ⟨pid, fd⟩ = some (.shared id))
      (shown : s.tables.file? id = some file) (writable : file.rights.write = true)
      (zero : data = []) : Writing s pid fd data (.ok 0 s)
  | refused {id : GroupId} {file : OpenFile} {reason : Error} {store : σ}
      (slot : s.tables.slot? ⟨pid, fd⟩ = some (.shared id))
      (shown : s.tables.file? id = some file) (writable : file.rights.write = true)
      (positive : data ≠ [])
      (answer : Storage.writeAt file.object (file.start s.storage) data s.storage =
        (.error reason, store)) :
      Writing s pid fd data (.error (.refused reason) (s.withStorage store))
  | overflow {id : GroupId} {file : OpenFile} {count : Nat} {store : σ}
      (slot : s.tables.slot? ⟨pid, fd⟩ = some (.shared id))
      (shown : s.tables.file? id = some file) (writable : file.rights.write = true)
      (positive : data ≠ [])
      (answer : Storage.writeAt file.object (file.start s.storage) data s.storage =
        (.ok count, store))
      (outside : ¬ file.start s.storage + count < wordLimit) :
      Writing s pid fd data (.error (.faulted .wordOverflow) (s.withStorage store))
  | moved {id : GroupId} {file : OpenFile} {count : Nat} {store : σ} {after : Tables}
      (slot : s.tables.slot? ⟨pid, fd⟩ = some (.shared id))
      (shown : s.tables.file? id = some file) (writable : file.rights.write = true)
      (positive : data ≠ [])
      (answer : Storage.writeAt file.object (file.start s.storage) data s.storage =
        (.ok count, store))
      (inside : file.start s.storage + count < wordLimit)
      (repositioning : Tables.Repositioning s.tables id (file.start s.storage + count)
        s.tables.references after) :
      Writing s pid fd data (.ok count ((s.withStorage store).withTables after))

theorem writing_shared (balanced : s.tables.Balanced) (data : Bytes)
    (there : s.tables.slot? ⟨pid, fd⟩ = some (.shared id)) :
    Writing s pid fd data ((writeShared id data).run s) := by
  obtain ⟨file, shown⟩ := balanced.exists_file there
  obtain ⟨group, looked, _, _, rights⟩ := run_group_of_file? shown
  cases writable : file.rights.write with
  | false =>
      simp only [writeShared, EStateM.run_bind, looked, rights, writable]
      refine Writing.forbidden ?_ writable
      simp only [Tables.rights?, there, shown, Option.map_some]
  | true =>
      by_cases zero : data = []
      · simp only [writeShared, EStateM.run_bind, looked, rights, writable, Bool.not_true,
          Bool.false_eq_true, if_false, if_pos zero]
        exact .nothing there shown writable zero
      · rw [run_writeShared shown writable zero]
        simp only [EStateM.run_bind, run_onStorage]
        cases answer : Storage.writeAt file.object (file.start s.storage) data s.storage with
        | mk verdict store =>
            cases verdict with
            | error reason => exact .refused there shown writable zero answer
            | ok count =>
                simp only [orRefuse_ok, EStateM.run_pure]
                by_cases inside : file.start s.storage + count < wordLimit
                · have member := Tables.mem_references_iff.mpr there
                  obtain ⟨after, moves⟩ := Tables.Accounts.repositioning balanced member
                    (file.start s.storage + count)
                  have movesHere : Tables.Repositioning (s.withStorage store).tables id
                      (file.start s.storage + count) s.tables.references after := moves
                  rw [run_advance inside movesHere]
                  exact .moved there shown writable zero answer inside moves
                · rw [run_advance_overflow inside]
                  exact .overflow there shown writable zero answer inside

theorem writing (balanced : s.tables.Balanced) (data : Bytes) :
    Writing s pid fd data ((write pid fd data).run s) := by
  obtain ⟨reason, why, run⟩ | ⟨contents, there, run⟩ := run_slot_cases s pid fd
  · simp only [write, EStateM.run_bind, run]
    exact .unresolved why
  · simp only [write, EStateM.run_bind, run]
    cases contents with
    | shared id => exact writing_shared balanced data there
    | stream stream =>
        cases writable : stream.rights.write with
        | false =>
            have given : s.tables.rights? ⟨pid, fd⟩ = some stream.rights := by
              simp only [Tables.rights?, there]
            simp only [writable, Bool.false_eq_true, if_false, run_refuse]
            exact .forbidden given writable
        | true =>
            simp only [writable, if_true, EStateM.run_bind, run_onConsole]
            cases answer : ByteDevice.write data s.console with
            | mk verdict console =>
                cases verdict with
                | error reason => exact .consoleRefused there writable answer
                | ok count => exact .console there writable answer

end Service

end OpenFiles
