import Mathlib.Algebra.Ring.Nat
import OpenFiles.Console.MemoryConsole
import OpenFiles.Proofs.Service.Appends
import OpenFiles.Proofs.Service.Words

/-!
# Where cursors overflow

A transfer that would end where no word is faults, and the lock on the tables is still held
then. `faults_iff_overruns` says of a service over a file tree when that happens. A read
cannot get there: it ends with the contents at the latest. A write to a regular file is
refused first, and so is a seek; a directory refuses every write. A device takes whatever it
is given and has no end, so the cursor of a group that writes to one counts the bytes of all
its writes, and the write that brings them to the number of words faults.

`faultless_of_carried` is the other side of it: it does take that many bytes.
-/

namespace OpenFiles

namespace FileTree

variable {fs later : FileTree} {object : Object} {position count : Nat} {data : Bytes}

/-- A device takes everything. -/
theorem writeAt_device (names : fs.Names object) (device : object.kind.isSeekable = false)
    (position : Nat) (data : Bytes) : fs.writeAt object position data = (.ok data.length, fs) := by
  obtain ⟨node, found, _, kind⟩ := names
  rw [← kind] at device
  simp only [writeAt, found, Node.writeAt]
  cases here : node.kind with
  | regular => rw [here] at device; cases device
  | directory => rw [here] at device; cases device
  | charDevice => simp only [adjust_self found]
  | blockDevice => simp only [adjust_self found]

/-- What is no device takes nothing behind the last word. -/
theorem inside_of_writeAt (names : fs.Names object) (seekable : object.kind.isSeekable = true)
    (answer : fs.writeAt object position data = (.ok count, later)) :
    position + count < wordLimit := by
  obtain ⟨node, found, _, kind⟩ := names
  rw [← kind] at seekable
  have outcome := stored fs object position data
  rw [answer] at outcome
  cases outcome with
  | @swallowed other there device =>
      obtain rfl := Option.some.inj (there.symm.trans found)
      simp only [writeAt, found, Node.writeAt] at answer
      cases here : other.kind with
      | regular => exact absurd here device
      | directory => rw [here] at answer; cases answer
      | charDevice => rw [here] at seekable; cases seekable
      | blockDevice => rw [here] at seekable; cases seekable
  | stored there regular inside => exact inside

end FileTree

namespace Service

open OpenFiles.Action FileTree

section Faults

variable {σ κ : Type} [Storage σ] [ByteDevice κ] {s : Service σ κ} {request : Request}

/-- Too much for the cursor is a fault. -/
theorem faulted_of_tooMuch (tooMuch : s.TooMuch request) :
    ((perform request).outcome s).1 = .error (.faulted .wordOverflow) := by
  cases tooMuch with
  | @read pid fd length id file data slot shown readable positive answer outside =>
      have run : (perform (.read pid fd length)).run s =
          (read pid fd length >>= fun data => pure (.data data)).run s := rfl
      rw [outcome_eq, run, EStateM.run_bind, run_read_of_slot slot,
        run_readShared shown readable positive]
      simp only [EStateM.run_bind, answer, orRefuse_ok, EStateM.run_pure,
        run_advance_overflow outside]
  | @write pid fd data id file count store slot shown writable positive answer outside =>
      have run : (perform (.write pid fd data)).run s =
          (write pid fd data >>= fun count => pure (.number count)).run s := rfl
      rw [outcome_eq, run, EStateM.run_bind, run_write_of_slot slot,
        run_writeShared shown writable positive]
      simp only [EStateM.run_bind, run_onStorage, answer, orRefuse_ok, EStateM.run_pure,
        run_advance_overflow outside]

/-- A request faults exactly if it is too much for its cursor. -/
theorem faulted_iff_tooMuch (balanced : s.tables.Balanced) :
    (∃ fault, ((perform request).outcome s).1 = .error (.faulted fault)) ↔ s.TooMuch request :=
  ⟨fun ⟨_, faulted⟩ => (wordOverflow_of_fault balanced faulted).2,
    fun tooMuch => ⟨_, faulted_of_tooMuch tooMuch⟩⟩

end Faults

variable {κ : Type} [ByteDevice κ] {s : Service FileTree κ} {request : Request}
variable {id : GroupId} {file : OpenFile}

/-- The request writes to a device, and the write would end where no word is. It starts at
the cursor, or at the beginning if the group was opened for appends: a device has no size. -/
def Overruns (s : Service FileTree κ) : Request → Prop
  | .write pid fd data =>
    ∃ file, s.tables.target? ⟨pid, fd⟩ = some file ∧ file.rights.write = true ∧
      file.object.kind.isSeekable = false ∧
      wordLimit ≤ (if file.rights.append then 0 else file.cursor) + data.length
  | _ => False

/-- A device has no contents. -/
theorem dataAt_of_device (sole : Sole s) (shown : s.tables.file? id = some file)
    (device : file.object.kind.isSeekable = false) :
    s.storage.dataAt file.object.node = [] := by
  obtain ⟨node, found, _, kind⟩ := sole.reachable.names_of_file? shown
  refine sole.plain.dataAt_eq_nil ?_
  rw [kindOf, found, Option.map_some, kind]
  intro regular
  rw [Option.some.inj regular] at device
  cases device

theorem start_of_device (sole : Sole s) (shown : s.tables.file? id = some file)
    (device : file.object.kind.isSeekable = false) :
    file.start s.storage = if file.rights.append then 0 else file.cursor := by
  have size : Storage.sizeOf file.object s.storage = 0 := by
    change FileTree.sizeOf file.object s.storage = 0
    rw [sizeOf_eq_length, dataAt_of_device sole shown device]
    rfl
  rw [OpenFile.start, size]

/-- Only a device can be given more than its cursor can count. -/
theorem tooMuch_iff_overruns (sized : Sized s) : s.TooMuch request ↔ s.Overruns request := by
  have names {id : GroupId} {file : OpenFile} (shown : s.tables.file? id = some file) :
      s.storage.Names file.object := sized.sole.reachable.names_of_file? shown
  constructor
  · intro tooMuch
    cases tooMuch with
    | read slot shown readable positive answer outside =>
        exact outside (sized.read_end_lt shown answer)
    | @write pid fd data id file count store slot shown writable positive answer outside =>
        cases device : file.object.kind.isSeekable with
        | true => exact absurd (inside_of_writeAt (names shown) device answer) outside
        | false =>
            cases (writeAt_device (names shown) device _ data).symm.trans answer
            refine ⟨file, Tables.target?_eq_some.mpr ⟨id, slot, shown⟩, writable, device, ?_⟩
            rw [← start_of_device sized.sole shown device]
            exact Nat.le_of_not_lt outside
  · intro overruns
    cases request with
    | write pid fd data =>
        obtain ⟨file, target, writable, device, outside⟩ := overruns
        obtain ⟨id, slot, shown⟩ := Tables.target?_eq_some.mp target
        rw [← start_of_device sized.sole shown device] at outside
        have start := sized.start_lt shown
        refine .write slot shown writable ?_ (writeAt_device (names shown) device _ data)
          (Nat.not_lt_of_le outside)
        rintro rfl
        exact absurd outside (Nat.not_le_of_lt start)
    | _ => exact overruns.elim

/-- The place where a transfer ends is a word, and the call that makes it does not fault,
except for one kind of call: a write to a device that is one too many for its cursor. That
one does fault. -/
theorem faults_iff_overruns (sized : Sized s) (request : Request) :
    (∃ fault, ((perform request).outcome s).1 = .error (.faulted fault)) ↔ s.Overruns request :=
  (faulted_iff_tooMuch sized.sole.balanced).trans (tooMuch_iff_overruns sized)

/-- A seek has taken the cursor of a file to the last word, and a write goes on from there.
The write is refused and does not fault. -/
theorem faultless_at_last_word :
    ∃ start : Service FileTree MemoryConsole,
      build ⟨2, 5⟩ ([.createFile "/a" [1, 2]].foldl FileTree.after initial) (.ofCapacity 4) =
        .ok start ∧
      (((start.after [.createProcess ⟨1⟩, .openPath ⟨1⟩ "/a" (.ofBits 2) 0,
        .seek ⟨1⟩ ⟨3⟩ 9223372036854775807 0, .seek ⟨1⟩ ⟨3⟩ 9223372036854775807 1,
        .seek ⟨1⟩ ⟨3⟩ 1 1]).tables.target? ⟨⟨1⟩, ⟨3⟩⟩).map OpenFile.cursor =
          some 18446744073709551615) ∧
      ¬ ∃ fault, ((perform (.write ⟨1⟩ ⟨3⟩ [1, 2])).outcome (start.after [.createProcess ⟨1⟩,
        .openPath ⟨1⟩ "/a" (.ofBits 2) 0, .seek ⟨1⟩ ⟨3⟩ 9223372036854775807 0,
        .seek ⟨1⟩ ⟨3⟩ 9223372036854775807 1, .seek ⟨1⟩ ⟨3⟩ 1 1])).1 =
          .error (.faulted fault) := by
  have built : build ⟨2, 5⟩ ([.createFile "/a" [1, 2]].foldl FileTree.after initial)
    (MemoryConsole.ofCapacity 4) = .ok _ := rfl
  have sized := (Sized.built _ (each_of_nodes (by decide)) built).after [.createProcess ⟨1⟩,
    .openPath ⟨1⟩ "/a" (.ofBits 2) 0, .seek ⟨1⟩ ⟨3⟩ 9223372036854775807 0,
    .seek ⟨1⟩ ⟨3⟩ 9223372036854775807 1, .seek ⟨1⟩ ⟨3⟩ 1 1]
  refine ⟨_, built, rfl, fun faulted => ?_⟩
  obtain ⟨file, target, _, device, _⟩ := (faults_iff_overruns sized _).mp faulted
  cases target
  cases device

def load : Request → Nat
  | .write _ _ data => data.length
  | _ => 0

def carried (history : List Request) : Nat := (history.map load).sum

/-- On devices, no cursor is beyond a number of bytes. A group that was opened for appends
does not count: its writes do not start at the cursor. -/
def Behind (s : Service FileTree κ) (bytes : Nat) : Prop :=
  ∀ id file, s.tables.file? id = some file → file.object.kind.isSeekable = false →
    file.rights.append = false → file.cursor ≤ bytes

omit [ByteDevice κ] in
theorem behind_of_build {capacities : Capacities} {storage : FileTree} {console : κ}
    {allotment : Allotment} (built : build capacities storage console allotment = .ok s) :
    s.Behind 0 := by
  intro id file shown
  obtain ⟨handle, member⟩ :=
    Tables.Accounts.exists_reference_of_file? (balanced_of_build built) shown
  obtain ⟨system, tables, _⟩ := tables_of_build built
  rw [tables] at member
  exact absurd member List.not_mem_nil

/-- The cursors of devices move by what is written. -/
theorem Behind.next {bytes : Nat} (behind : s.Behind bytes) (sole : Sole s) (request : Request) :
    (s.next request).Behind (bytes + load request) := by
  intro id file shown device other
  cases shows_next sole.balanced shown with
  | kept before => exact Nat.le_add_right_of_le (behind id file before device other)
  | @read pid fd length id before data slot there granted answer inside =>
      have amount := length_le_of_readAt granted
      rw [dataAt_of_device sole there device, List.length_nil] at amount
      have before := behind id before there device other
      change _ + data.length ≤ bytes + 0
      omega
  | @wrote pid fd data id before count store slot there positive granted answer inside =>
      cases (writeAt_device (sole.reachable.names_of_file? there) device _ data).symm.trans granted
      have start : before.start s.storage = before.cursor := by
        rw [start_of_device sole there device, if_neg (Bool.eq_false_iff.mp other)]
      change before.start s.storage + data.length ≤ bytes + data.length
      rw [start]
      exact Nat.add_le_add_right (behind id before there device other) _
  | sought slot there seekable answer inside =>
      rw [seekable] at device
      cases device
  | @founded pid path flags permission fd id rights object held store asked granted answer slot
      unused =>
      have beginning : (if rights.append then Storage.sizeOf object store else 0) = 0 :=
        if_neg (Bool.eq_false_iff.mp other)
      change (if rights.append then Storage.sizeOf object store else 0) ≤ _
      rw [beginning]
      exact Nat.zero_le _

theorem Behind.after {bytes : Nat} (behind : s.Behind bytes) (sized : Sized s)
    (history : List Request) : (s.after history).Behind (bytes + carried history) := by
  induction history generalizing s bytes with
  | nil => exact behind
  | cons request rest ih =>
      rw [carried, List.map_cons, List.sum_cons, ← Nat.add_assoc]
      exact ih (behind.next sized.sole request) (sized.next request)

/-- It takes as many bytes as there are words. A history that hands over fewer of them to a
service in which nothing is open yet runs into no fault at all. -/
theorem faultless_of_carried {capacities : Capacities} {changes : List Change} {console : κ}
    (fits : (changes.foldl FileTree.after initial).Each Node.Addressable)
    {allotment : Allotment}
    (built : build capacities (changes.foldl FileTree.after initial) console allotment = .ok s)
    {first rest : List Request} (few : carried (first ++ request :: rest) < wordLimit)
    (fault : Fault) : ((perform request).outcome (s.after first)).1 ≠ .error (.faulted fault) := by
  have sized := (Sized.built changes fits built).after first
  have behind := (behind_of_build built).after (Sized.built changes fits built) first
  intro faulted
  have overruns :=
    (tooMuch_iff_overruns sized).mp (wordOverflow_of_fault sized.sole.balanced faulted).2
  rw [carried, List.map_append, List.sum_append, List.map_cons, List.sum_cons] at few
  cases request with
  | write pid fd data =>
      obtain ⟨file, target, writable, device, outside⟩ := overruns
      obtain ⟨id, slot, shown⟩ := Tables.target?_eq_some.mp target
      have start : (if file.rights.append then 0 else file.cursor) ≤ carried first := by
        cases append : file.rights.append with
        | true => exact Nat.zero_le _
        | false => simpa using behind id file shown device append
      have amount : load (.write pid fd data) = data.length := rfl
      rw [amount, ← carried] at few
      omega
  | _ => exact overruns

/-- A write to a device moves the cursor by as much as it hands over. -/
theorem target?_next_write (sized : Sized s) {pid : Pid} {fd : Descriptor} {data : Bytes}
    (target : s.tables.target? ⟨pid, fd⟩ = some file) (writable : file.rights.write = true)
    (other : file.rights.append = false) (device : file.object.kind.isSeekable = false)
    (inside : file.cursor + data.length < wordLimit) :
    (s.next (.write pid fd data)).tables.target? ⟨pid, fd⟩ =
      some { file with cursor := file.cursor + data.length } := by
  obtain ⟨id, slot, shown⟩ := Tables.target?_eq_some.mp target
  have start : file.start s.storage = file.cursor := by
    rw [start_of_device sized.sole shown device, if_neg (Bool.eq_false_iff.mp other)]
  have taken : s.storage.writeAt file.object (file.start s.storage) data = (.ok data.length, _) :=
    writeAt_device (sized.sole.reachable.names_of_file? shown) device _ data
  have outcome := sending sized.sole.balanced data target
  rw [next]
  generalize (perform (.write pid fd data)).outcome s = result at outcome
  cases outcome with
  | stopped denied =>
      exact absurd ⟨writable, fun _ => ⟨_, _, taken, by rwa [start]⟩⟩ denied
  | nothing writable zero =>
      rw [zero]
      exact target
  | @moved group count store after slot' shown' writable positive answer inside repositioning =>
      cases taken.symm.trans answer
      refine Tables.target?_eq_some.mpr ⟨group, (repositioning.slot? _).trans slot', ?_⟩
      refine (repositioning.files group).trans ?_
      rw [if_pos rfl, shown', start]
      rfl

/-- One write after the other, to a device: the cursor counts the bytes of all of them. -/
theorem target?_after_writes (sized : Sized s) {pid : Pid} {fd : Descriptor}
    (target : s.tables.target? ⟨pid, fd⟩ = some file) (writable : file.rights.write = true)
    (other : file.rights.append = false) (device : file.object.kind.isSeekable = false)
    {buffers : List Bytes}
    (inside : file.cursor + carried (buffers.map (.write pid fd)) < wordLimit) :
    (s.after (buffers.map (.write pid fd))).tables.target? ⟨pid, fd⟩ =
      some { file with cursor := file.cursor + carried (buffers.map (.write pid fd)) } := by
  induction buffers generalizing s file with
  | nil => exact target
  | cons data rest ih =>
      have total : carried ((data :: rest).map (.write pid fd)) =
        data.length + carried (rest.map (.write pid fd)) := List.sum_cons
      rw [total, ← Nat.add_assoc] at inside ⊢
      have moved := target?_next_write sized target writable other device
        (show file.cursor + data.length < wordLimit by omega)
      exact ih (sized.next _) moved writable other device inside

/-- The writes to a device fault as soon as they hand over as many bytes as there are words. -/
theorem faults_after_writes (sized : Sized s) {pid : Pid} {fd : Descriptor}
    (target : s.tables.target? ⟨pid, fd⟩ = some file) (writable : file.rights.write = true)
    (other : file.rights.append = false) (device : file.object.kind.isSeekable = false)
    {buffers : List Bytes} {data : Bytes}
    (inside : file.cursor + carried (buffers.map (.write pid fd)) < wordLimit)
    (outside : wordLimit ≤ file.cursor + carried (buffers.map (.write pid fd)) + data.length) :
    ((perform (.write pid fd data)).outcome (s.after (buffers.map (.write pid fd)))).1 =
      .error (.faulted .wordOverflow) := by
  refine faulted_of_tooMuch ((tooMuch_iff_overruns (sized.after _)).mpr ?_)
  refine ⟨_, target?_after_writes sized target writable other device inside, writable, device, ?_⟩
  rwa [if_neg (Bool.eq_false_iff.mp other)]

/-- Two writes to a device take the cursor to the last word but one, and a third, of two
bytes, faults. -/
theorem overflow_after_two_writes :
    ∃ start later : Service FileTree MemoryConsole,
      build ⟨2, 5⟩ initial (.ofCapacity 4) = .ok start ∧
      later = start.after [.createProcess ⟨1⟩, .openPath ⟨1⟩ "/dev/null" (.ofBits 1) 0,
        .write ⟨1⟩ ⟨3⟩ (List.replicate 9223372036854775807 0),
        .write ⟨1⟩ ⟨3⟩ (List.replicate 9223372036854775807 0)] ∧
      (later.tables.target? ⟨⟨1⟩, ⟨3⟩⟩).map OpenFile.cursor = some 18446744073709551614 ∧
      ((perform (.write ⟨1⟩ ⟨3⟩ [0, 0])).outcome later).1 = .error (.faulted .wordOverflow) := by
  have built : build ⟨2, 5⟩ initial (MemoryConsole.ofCapacity 4) = .ok _ := rfl
  have sized := (Sized.built [] (each_of_nodes (by decide)) built).after [.createProcess ⟨1⟩,
    .openPath ⟨1⟩ "/dev/null" (.ofBits 1) 0]
  -- The buffers stay behind a name, so that nothing looks into them.
  obtain ⟨buffers, two⟩ : ∃ buffers : List Bytes, buffers =
    [List.replicate 9223372036854775807 0, List.replicate 9223372036854775807 0] := ⟨_, rfl⟩
  have total : carried (buffers.map (.write ⟨1⟩ ⟨3⟩)) = 18446744073709551614 := by
    simp only [two, carried, List.map_cons, List.map_nil, load, List.length_replicate,
      List.sum_cons, List.sum_nil, Nat.add_zero, Nat.reduceAdd]
  have counted : (Service.after _ (buffers.map (.write ⟨1⟩ ⟨3⟩))).tables.target? ⟨⟨1⟩, ⟨3⟩⟩ = _ :=
    target?_after_writes sized (by rfl) (by rfl) (by rfl) (by rfl) (by rw [total]; decide)
  have faulted : ((perform (.write ⟨1⟩ ⟨3⟩ [0, 0])).outcome
      (Service.after _ (buffers.map (.write ⟨1⟩ ⟨3⟩)))).1 = _ :=
    faults_after_writes sized (by rfl) (by rfl) (by rfl) (by rfl)
      (by rw [total]; decide) (by rw [total]; decide)
  rw [total] at counted
  rw [two, List.map_cons, List.map_cons, List.map_nil, ← after_append] at counted faulted
  exact ⟨_, _, built, rfl, congrArg (Option.map OpenFile.cursor) counted, faulted⟩

end Service

end OpenFiles
