import OpenFiles.Proofs.FileTree.Overwriting
import OpenFiles.Proofs.Service.Seeks
import OpenFiles.Proofs.Service.SharedReads

/-!
# What is written is read back

A file may be open several times, in several processes, and each open has a cursor of its own.
They all lead to one node. So whatever is written at a position is what a reader finds there,
through whichever descriptor it comes: `written_is_read_back`. Descriptors of one open share
their cursor and have to seek back; others have to seek there in the first place.

`files_are_byte_arrays` puts this beside what the file tree itself does with positions and
bytes.
-/

namespace OpenFiles

namespace Tables

variable {tables after : Tables} {handle : Handle} {id : GroupId} {object : Object}
variable {rights : Rights} {cursor : Nat} {refs : List Reference}

/-- A descriptor is on an object and may be used so. -/
def Opens (tables : Tables) (handle : Handle) (object : Object) (rights : Rights) : Prop :=
  ∃ cursor, tables.target? handle = some ⟨object, cursor, rights⟩

/-- Whichever cursor is moved, descriptors stay on their objects. -/
theorem Opens.repositioned (opens : tables.Opens handle object rights)
    (repositioning : Repositioning tables id cursor refs after) :
    after.Opens handle object rights := by
  obtain ⟨before, target⟩ := opens
  obtain ⟨move, same, moved⟩ := repositioning.target? handle
  rw [target, Option.map_some] at moved
  obtain ⟨object', rights'⟩ := same ⟨object, before, rights⟩
  generalize move ⟨object, before, rights⟩ = file at moved object' rights'
  obtain ⟨_, cursor', _⟩ := file
  cases object'
  cases rights'
  exact ⟨cursor', moved⟩

/-- The cursor that is moved is the one of the group. -/
theorem Opens.target?_repositioned (opens : tables.Opens handle object rights)
    (slot : tables.slot? handle = some (.shared id))
    (repositioning : Repositioning tables id cursor refs after) :
    after.target? handle = some ⟨object, cursor, rights⟩ := by
  obtain ⟨before, target⟩ := opens
  rw [target?_of_slot slot] at target
  rw [target?_of_slot ((repositioning.slot? handle).trans slot), repositioning.files, if_pos rfl,
    target, Option.map_some]

end Tables

namespace Service

open OpenFiles.Action FileTree

variable {κ : Type} [ByteDevice κ] {s later : Service FileTree κ} {handle writer reader : Handle}
variable {object : Object} {rights : Rights} {file : OpenFile} {position : Nat} {data : Bytes}

/-- A seek through a descriptor, from whatever base, is answered with a position, and leads to
a state. -/
def SeeksTo (s : Service FileTree κ) (handle : Handle) (position : Nat)
    (later : Service FileTree κ) : Prop :=
  ∃ distance whence, (perform (.seek handle.pid handle.descriptor distance whence)).outcome s =
    (.ok (.number position), later)

theorem SeeksTo.repositioned (seeks : s.SeeksTo handle position later)
    (balanced : s.tables.Balanced) :
    ∃ id after, s.tables.slot? handle = some (.shared id) ∧
      Tables.Repositioning s.tables id position s.tables.references after ∧
      later = s.withTables after := by
  obtain ⟨distance, whence, granted⟩ := seeks
  have outcome : Seeking s handle.pid handle.descriptor distance whence _ :=
    seeking balanced distance whence
  rw [outcome_seek] at granted
  generalize (seek handle.pid handle.descriptor distance whence).run s = result
    at outcome granted
  cases outcome with
  | moved slot shown seekable asked exact inside repositioning =>
      cases granted
      exact ⟨_, _, slot, repositioning, rfl⟩
  | _ => cases granted

/-- Every position can be reached. -/
theorem exists_seeksTo (balanced : s.tables.Balanced) (opens : s.tables.Opens handle object rights)
    (regular : object.kind = .regular) (word : position ≤ 2 ^ 64 - 1) :
    ∃ later, s.SeeksTo handle position later := by
  obtain ⟨cursor, target⟩ := opens
  obtain ⟨id, slot, shown⟩ := Tables.target?_eq_some.mp target
  have seekable : object.kind.isSeekable = true := by rw [regular]; rfl
  have inside : 0 ≤ ((0 : Nat) : Int) + position ∧ ((0 : Nat) : Int) + position ≤ 2 ^ 64 - 1 := by
    omega
  obtain ⟨target, later, exact, granted, _⟩ :=
    seek_inside balanced slot shown seekable (.head _) inside
  rw [Int.natCast_zero, Int.zero_add, Int.natCast_inj] at exact
  rw [exact] at granted
  exact ⟨later, _, _, granted⟩

/-- A write that does not append puts the data at the cursor, as far as the service goes. -/
theorem outcome_write (balanced : s.tables.Balanced)
    (target : s.tables.target? writer = some ⟨object, position, rights⟩)
    (writable : rights.write = true) (inPlace : rights.append = false) (positive : data ≠ []) :
    (∀ reason store, object.write position data s.storage = (.error reason, store) →
      (perform (.write writer.pid writer.descriptor data)).outcome s =
        (.error (.refused reason), s.withStorage store)) ∧
    ∀ count store, object.write position data s.storage = (.ok count, store) →
      position + count < wordLimit → ∃ id after,
        Tables.Repositioning s.tables id (position + count) s.tables.references after ∧
        (perform (.write writer.pid writer.descriptor data)).outcome s =
          (.ok (.number count), (s.withStorage store).withTables after) := by
  obtain ⟨id, slot, shown⟩ := Tables.target?_eq_some.mp target
  have start : OpenFile.start ⟨object, position, rights⟩ s.storage = position := by
    rw [OpenFile.start, inPlace]
    rfl
  have run : (perform (.write writer.pid writer.descriptor data)).run s =
      (write writer.pid writer.descriptor data >>= fun count => pure (.number count)).run s := rfl
  rw [outcome_eq, run, EStateM.run_bind, run_write_of_slot slot,
    run_writeShared shown writable positive, start]
  refine ⟨fun reason store answer => ?_, fun count store answer inside => ?_⟩
  · rw [Object.write, if_neg positive] at answer
    simp only [EStateM.run_bind, run_onStorage, answer, orRefuse_error, run_refuse]
  · rw [Object.write, if_neg positive] at answer
    obtain ⟨after, moves⟩ := Tables.Accounts.repositioning balanced
      (Tables.mem_references_iff.mpr slot) (position + count)
    refine ⟨id, after, moves, ?_⟩
    simp only [EStateM.run_bind, run_onStorage, answer, orRefuse_ok, EStateM.run_pure]
    rw [run_advance (s := s.withStorage store) inside moves]

/-- What becomes of data that a writer puts at a position, and of a read of as many bytes from
there. The position can be sought. The write is refused as the file tree refuses it, which
changes nothing; or all of the data is laid over the contents. Then the reader can seek the
position, too, and what it reads is the data. -/
structure ReadsBack (s : Service FileTree κ) (writer reader : Handle) (object : Object)
    (position : Nat) (data : Bytes) : Prop where
  sought : ∃ there, s.SeeksTo writer position there
  refused : ∀ there stop later, s.SeeksTo writer position there →
    (perform (.write writer.pid writer.descriptor data)).outcome there = (.error stop, later) →
    later = there ∧ ∃ reason, stop = .refused reason ∧
      Overwriting s.storage object position data (.error reason, s.storage)
  written : ∀ there reply later, s.SeeksTo writer position there →
    (perform (.write writer.pid writer.descriptor data)).outcome there = (.ok reply, later) →
    reply = .number data.length ∧
      Overwriting s.storage object position data (.ok data.length, later.storage) ∧
      (∃ back, later.SeeksTo reader position back) ∧
      ∀ back, later.SeeksTo reader position back →
        ((perform (.read reader.pid reader.descriptor data.length)).outcome back).1 =
          .ok (.data data)

/-- A write at a position that was sought is refused, or its data is laid over the contents and
all descriptors are on their objects still. -/
theorem write_there {there : Service FileTree κ} (balanced : s.tables.Balanced)
    (opens : s.tables.Opens writer object rights)
    (regular : s.storage.kindOf object.node = some .regular) (writable : rights.write = true)
    (inPlace : rights.append = false) (positive : data ≠ [])
    (seeks : s.SeeksTo writer position there) :
    (∃ reason, Overwriting s.storage object position data (.error reason, s.storage) ∧
      (perform (.write writer.pid writer.descriptor data)).outcome there =
        (.error (.refused reason), there)) ∨
    ∃ later, Overwriting s.storage object position data (.ok data.length, later.storage) ∧
      (perform (.write writer.pid writer.descriptor data)).outcome there =
        (.ok (.number data.length), later) ∧
      later.tables.Balanced ∧ ∀ reader object rights, s.tables.Opens reader object rights →
        later.tables.Opens reader object rights := by
  obtain ⟨id, middle, slot, moves, rfl⟩ := seeks.repositioned balanced
  have target := opens.target?_repositioned slot moves
  have overwriting : Overwriting s.storage object position data _ :=
    FileTree.overwriting position regular positive
  obtain ⟨refused, written⟩ := outcome_write (s := s.withTables middle) moves.balanced target
    writable inPlace positive
  generalize result : object.write position data s.storage = answer at overwriting
  cases overwriting with
  | invalid outside => exact .inl ⟨_, .invalid outside, refused _ _ result⟩
  | full inside grows large => exact .inl ⟨_, .full inside grows large, refused _ _ result⟩
  | written inside room overlaid =>
      have limit : wordLimit = 2 ^ 64 := rfl
      obtain ⟨id', after, moves', granted⟩ := written _ _ result (by omega)
      exact .inr ⟨_, .written inside room overlaid, granted, moves'.balanced,
        fun _ _ _ opens => (opens.repositioned moves).repositioned moves'⟩

/-- A read that starts where data was laid over the contents answers the data. -/
theorem read_there {there : Service FileTree κ} {contents : Bytes} (balanced : s.tables.Balanced)
    (opens : s.tables.Opens reader object rights)
    (regular : s.storage.kindOf object.node = some .regular) (readable : rights.read = true)
    (inside : position + data.length ≤ 2 ^ 64 - 1)
    (overlaid : Overlaid contents position data (s.storage.dataAt object.node))
    (seeks : s.SeeksTo reader position there) :
    ((perform (.read reader.pid reader.descriptor data.length)).outcome there).1 =
      .ok (.data data) := by
  obtain ⟨id, later, slot, moves, rfl⟩ := seeks.repositioned balanced
  obtain ⟨id', slot', shown⟩ :=
    Tables.target?_eq_some.mp (opens.target?_repositioned slot moves)
  have taken : share (s.storage.dataAt object.node) position data.length = data :=
    overlaid.extract
  have word : position + (share (s.storage.dataAt object.node) position data.length).length <
      wordLimit := by
    have limit : wordLimit = 2 ^ 64 := rfl
    rw [taken]
    omega
  have answer := (read_member_inside (s := s.withTables later) moves.balanced slot' shown readable
    regular fun _ => word).1
  exact answer.trans (congrArg (fun bytes => Except.ok (Reply.data bytes)) taken)

omit [ByteDevice κ] in
/-- Two descriptors on one inode number are on one object. -/
theorem object_eq (balanced : s.tables.Balanced) {file file' : OpenFile}
    (target : s.tables.target? writer = some file) (target' : s.tables.target? reader = some file')
    (same : file'.object.inode = file.object.inode) : file'.object = file.object := by
  obtain ⟨id, _, shown⟩ := Tables.target?_eq_some.mp target
  obtain ⟨id', _, shown'⟩ := Tables.target?_eq_some.mp target'
  exact Tables.eq_of_holds balanced.separate (holds_of_file? balanced shown')
    (holds_of_file? balanced shown) same

/-- Data that one descriptor wrote at a position is what any other one on the inode number reads
there, in whatever processes the two are. -/
theorem written_is_read_back (reached : Reachable Administered s) {file file' : OpenFile}
    (writes : s.tables.target? writer = some file) (regular : file.object.kind = .regular)
    (writable : file.rights.write = true) (inPlace : file.rights.append = false)
    (reads : s.tables.target? reader = some file')
    (same : file'.object.inode = file.object.inode) (readable : file'.rights.read = true)
    (positive : data ≠ []) (word : position ≤ 2 ^ 64 - 1) :
    s.ReadsBack writer reader file.object position data := by
  have balanced := reached.balanced
  have one := object_eq balanced writes reads same
  have opens : s.tables.Opens writer file.object file.rights := ⟨_, writes⟩
  have opens' : s.tables.Opens reader file.object file'.rights := by
    rw [← one]
    exact ⟨_, reads⟩
  obtain ⟨id, _, shown⟩ := Tables.target?_eq_some.mp writes
  obtain ⟨node, found, _, kind⟩ := reached.names_of_file? shown
  have here : s.storage.kindOf file.object.node = some .regular := by
    rw [kindOf, found, Option.map_some, kind, regular]
  refine ⟨exists_seeksTo balanced opens regular word, fun there stop later seeks stopped => ?_,
    fun there reply later seeks answered => ?_⟩
  · rcases write_there balanced opens here writable inPlace positive seeks with
      ⟨reason, refused, outcome⟩ | ⟨_, _, outcome, _⟩
    · cases outcome.symm.trans stopped
      exact ⟨rfl, reason, rfl, refused⟩
    · cases outcome.symm.trans stopped
  · rcases write_there balanced opens here writable inPlace positive seeks with
      ⟨_, _, outcome⟩ | ⟨later, written, outcome, balanced', kept⟩
    · cases outcome.symm.trans answered
    · cases outcome.symm.trans answered
      refine ⟨rfl, written, exists_seeksTo balanced' (kept _ _ _ opens') regular word,
        fun back seeks' => ?_⟩
      generalize state : later.storage = store at written
      cases written with
      | @written after inside room overlaid =>
          obtain ⟨contents, stays⟩ := withData_regular here after
          rw [← state] at contents stays
          rw [← contents] at overlaid
          exact read_there balanced' (kept _ _ _ opens') stays readable inside overlaid seeks'

/-- A regular file is an array of bytes, continued by zeros. For every tree, position and data, a
write is refused exactly where its end is no word or the file cannot grow so far, and otherwise
lays the data over the contents. A read, whenever there are such contents, answers what is there
of the bytes asked for, and leaves the rest of the buffer alone. For every state that a service
gets into, data that was written at a position of a file is what is read at that position, also
through another descriptor on the file, and in another process. -/
theorem files_are_byte_arrays :
    (∀ (fs : FileTree) (object : Object) (position : Nat) (data : Bytes),
      fs.kindOf object.node = some .regular → data ≠ [] →
        Overwriting fs object position data (object.write position data fs) ∧
        ∀ count later, object.write position data fs = (.ok count, later) →
          later.kindOf object.node = some .regular ∧
          Overlaid (fs.dataAt object.node) position data (later.dataAt object.node)) ∧
    (∀ (fs : FileTree) (object : Object) (contents : Bytes) (position length : Nat),
      fs.kindOf object.node = some .regular → fs.dataAt object.node = contents →
        Yields fs object contents position length) ∧
    ∀ {κ : Type} [ByteDevice κ] {s : Service FileTree κ}, Reachable Administered s →
      ∀ writer reader file file' position data, s.tables.target? writer = some file →
        file.object.kind = .regular → file.rights.write = true → file.rights.append = false →
        s.tables.target? reader = some file' → file'.object.inode = file.object.inode →
        file'.rights.read = true → data ≠ [] → position ≤ 2 ^ 64 - 1 →
          s.ReadsBack writer reader file.object position data := by
  refine ⟨fun fs object position data regular positive => ?_,
    fun fs object contents position length regular here => ?_,
    fun {κ} _ {s} reached writer reader file file' position data writes regular writable inPlace
      reads same readable positive word => ?_⟩
  · have outcome := overwriting position regular positive
    refine ⟨outcome, fun count later answer => ?_⟩
    rw [answer] at outcome
    cases outcome with
    | written inside room overlaid =>
        obtain ⟨contents, stays⟩ := withData_regular regular _
        exact ⟨stays, by rwa [contents]⟩
  · rw [← here]
    exact yields regular position length
  · exact written_is_read_back reached writes regular writable inPlace reads same readable positive
      word

/-- A process writes behind the end of an empty file, and another one, which has opened the file
itself, reads that and then the gap. A write across the end of a file covers its last byte. -/
theorem files_are_byte_arrays_across_a_gap :
    (∃ start s there later back : Service FileTree MemoryConsole,
      build ⟨4, 6⟩ FileTree.initial (.ofCapacity 4) = .ok start ∧
      start.after [.createProcess ⟨1⟩, .openPath ⟨1⟩ "/f" (.ofBits 6) 0, .createProcess ⟨2⟩,
        .openPath ⟨2⟩ "/f" (.ofBits 0) 0] = s ∧
      s.SeeksTo ⟨⟨1⟩, ⟨3⟩⟩ 3 there ∧
      (perform (.write ⟨1⟩ ⟨3⟩ [7, 8])).outcome there = (.ok (.number 2), later) ∧
      later.SeeksTo ⟨⟨2⟩, ⟨3⟩⟩ 3 back ∧
      ((perform (.read ⟨2⟩ ⟨3⟩ 2)).outcome back).1 = .ok (.data [7, 8]) ∧
      Yields later.storage ⟨⟨5, by decide⟩, .regular, ⟨4⟩⟩ [0, 0, 0, 7, 8] 1 9) ∧
    ∃ fs later : FileTree, [.createFile "/f" [1, 2, 3]].foldl FileTree.after FileTree.initial = fs ∧
      (⟨⟨5, by decide⟩, .regular, ⟨4⟩⟩ : Object).write 2 [9, 9] fs = (.ok 2, later) ∧
      Overlaid [1, 2, 3] 2 [9, 9] (later.dataAt ⟨4⟩) := by
  have built : build ⟨4, 6⟩ FileTree.initial (MemoryConsole.ofCapacity 4) = .ok _ := rfl
  have reached : Reachable Administered _ := Reachable.built built
  have before := reached.after [.createProcess ⟨1⟩, .openPath ⟨1⟩ "/f" (.ofBits 6) 0,
    .createProcess ⟨2⟩, .openPath ⟨2⟩ "/f" (.ofBits 0) 0]
  obtain ⟨writing, reading, service⟩ := files_are_byte_arrays
  refine ⟨?_, ?_⟩
  · have back := service before ⟨⟨1⟩, ⟨3⟩⟩ ⟨⟨2⟩, ⟨3⟩⟩ _ _ 3 [7, 8] rfl rfl rfl rfl rfl rfl rfl
      (by decide) (by decide)
    obtain ⟨_, _, _, reads⟩ := back.written _ _ _ ⟨3, 0, rfl⟩ rfl
    exact ⟨_, _, _, _, _, built, rfl, ⟨3, 0, rfl⟩, rfl, ⟨3, 0, rfl⟩, reads _ ⟨3, 0, rfl⟩,
      reading _ _ _ 1 9 rfl rfl⟩
  · have across := writing ([.createFile "/f" [1, 2, 3]].foldl FileTree.after FileTree.initial)
      ⟨⟨5, by decide⟩, .regular, ⟨4⟩⟩ 2 [9, 9] rfl (by decide)
    exact ⟨_, _, rfl, rfl, (across.2 _ _ rfl).2⟩

end Service

end OpenFiles
