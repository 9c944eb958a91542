import OpenFiles.Proofs.Posix.Steps

/-!
# Questions, transfers and seeks agree with the model

The service finds the open file of a descriptor through a group and a row, the model
by its number. They find the same file, and so they ask the same of storages that
answer alike. A cursor that moves is that of the same file.
-/

namespace OpenFiles

theorem Tables.rights?_eq_some {tables : Tables} {handle : Handle} {rights : Rights}
    (given : tables.rights? handle = some rights) :
    (∃ stream, tables.slot? handle = some (.stream stream) ∧ stream.rights = rights) ∨
      ∃ id file, tables.slot? handle = some (.shared id) ∧ tables.file? id = some file ∧
        file.rights = rights := by
  rw [Tables.rights?] at given
  split at given
  · rename_i stream slot
    exact .inl ⟨stream, slot, Option.some.inj given⟩
  · rename_i id slot
    obtain ⟨file, shown, same⟩ := Option.map_eq_some_iff.mp given
    exact .inr ⟨id, file, slot, shown, same⟩
  · cases given

namespace Posix

variable {κ : Type} {s : Service FileTree κ} {m : State FileTree κ}
variable {pid : Pid} {fd : Descriptor} {number : GroupId → Nat} {id : GroupId} {file : OpenFile}

/-- Storages that answer alike agree on where a write starts. -/
theorem Simulates.start_eq (simulates : Simulates s m) (file : OpenFile) :
    file.start m.storage = file.start s.storage := by
  unfold OpenFile.start
  split
  · exact simulates.storage.sizeOf file.object
  · rfl

theorem Simulates.base_eq (simulates : Simulates s m) (file : OpenFile) (whence : SeekBase) :
    m.base file whence = s.basePosition file.object file.cursor whence := by
  cases whence with
  | start => rfl
  | current => rfl
  | finish => exact simulates.storage.sizeOf file.object

/-- The cursor of a file moves in the service and in the model. -/
theorem Simulates.reposition (simulates : Simulates s m)
    (mirrored : MirroredBy number s.capacities s.tables m.processes m.files)
    (slot : s.tables.slot? ⟨pid, fd⟩ = some (.shared id)) {cursor : Nat} {after : Tables}
    (repositioning : Tables.Repositioning s.tables id cursor s.tables.references after) :
    Simulates (s.withTables after) (m.withCursor (number id) cursor) := by
  have effect : Service.Effect s none (s.withTables after) :=
    .of_repositioning repositioning .nothing
  refine ⟨simulates.checked, simulates.ample, simulates.capacities, simulates.console,
    simulates.storage, simulates.linked, ?_, number,
    mirrored.reposition (Tables.mem_references_iff.mpr slot) repositioning⟩
  intro object held
  rcases effect.objects object held with before | none
  · exact simulates.present object before
  · cases none

theorem agrees_tell {result : EStateM.Result Stop (Service FileTree κ) Nat}
    (telling : Service.Telling s pid fd result) (simulates : Simulates s m) :
    Agrees .number result (m.tell pid fd) := by
  obtain ⟨number, mirrored⟩ := simulates.mirrored
  cases telling with
  | unresolved why =>
      rw [State.tell, mirrored.processes.on_unresolved why]
      exact ⟨rfl, simulates⟩
  | stream slot =>
      rw [State.tell, mirrored.processes.on_stream slot]
      exact ⟨rfl, simulates⟩
  | told slot shown =>
      rw [State.tell, mirrored.on_shared slot shown]
      exact ⟨rfl, simulates⟩

/-- A question about the rights of a descriptor has one answer in both. -/
theorem MirroredBy.on_rights {given : Rights} {answer : Except Stop Reply × State FileTree κ}
    {onStream : StandardStream → Except Stop Reply × State FileTree κ}
    {onFile : Nat → OpenFile → Except Stop Reply × State FileTree κ}
    (mirrored : MirroredBy number s.capacities s.tables m.processes m.files)
    (rights : s.tables.rights? ⟨pid, fd⟩ = some given)
    (stream : ∀ stream, stream.rights = given → onStream stream = answer)
    (shared : ∀ number file, file.rights = given → onFile number file = answer) :
    m.on pid fd onStream onFile = answer := by
  rcases Tables.rights?_eq_some rights with ⟨origin, slot, same⟩ | ⟨id, file, slot, shown, same⟩
  · rw [mirrored.processes.on_stream slot, stream origin same]
  · rw [mirrored.on_shared slot shown, shared (number id) file same]

theorem streamRights_eq (stream : StandardStream) : streamRights stream = stream.rights := by
  cases stream <;> rfl

/-- Rights permit what they cover. -/
theorem permits_iff {held asked : Rights} : Permits held asked ↔ held.cover asked = true := by
  simp only [Permits, Rights.cover, Bool.and_eq_true, Bool.or_eq_true, Bool.not_eq_true',
    ← Bool.not_eq_true, ← imp_iff_not_or, and_assoc]

theorem agrees_requireRights {asked : Rights}
    {result : EStateM.Result Stop (Service FileTree κ) Unit}
    (checking : Service.Checking s pid fd asked result) (simulates : Simulates s m) :
    Agrees (fun _ => .done) result (m.requireRights pid fd asked) := by
  obtain ⟨number, mirrored⟩ := simulates.mirrored
  have answer (rights : Rights) (given : s.tables.rights? ⟨pid, fd⟩ = some rights) :
      m.requireRights pid fd asked =
        if rights.cover asked then (.ok .done, m) else m.refuse .badAccessMode := by
    rw [State.requireRights]
    apply mirrored.on_rights given
    · intro stream same
      simp only [streamRights_eq, same, permits_iff]
    · intro _ file same
      simp only [same, permits_iff]
  cases checking with
  | unresolved why =>
      rw [State.requireRights, mirrored.processes.on_unresolved why]
      exact ⟨rfl, simulates⟩
  | forbidden given lacking =>
      rw [answer _ given, lacking]
      exact ⟨rfl, simulates⟩
  | allowed given covered =>
      rw [answer _ given, covered]
      exact ⟨rfl, simulates⟩

theorem agrees_members {result : EStateM.Result Stop (Service FileTree κ) (List Handle)}
    (balanced : s.tables.Balanced) (listing : Service.Listing s pid fd result)
    (simulates : Simulates s m) : Agrees .handles result (m.members pid fd) := by
  obtain ⟨number, mirrored⟩ := simulates.mirrored
  cases listing with
  | unresolved why =>
      rw [State.members, mirrored.processes.on_unresolved why]
      exact ⟨rfl, simulates⟩
  | stream slot =>
      rw [State.members, mirrored.processes.on_stream slot]
      exact ⟨rfl, simulates⟩
  | shared slot enrolled =>
      obtain ⟨file, shown⟩ := balanced.exists_file slot
      rw [State.members, mirrored.on_shared slot shown, mirrored.sharers_eq slot enrolled]
      exact ⟨rfl, simulates⟩

theorem agrees_seek {distance : Int} {whence : Nat}
    {result : EStateM.Result Stop (Service FileTree κ) Nat}
    (seeking : Service.Seeking s pid fd distance whence result) (simulates : Simulates s m) :
    Agrees .number result (m.seek pid fd distance whence) := by
  obtain ⟨number, mirrored⟩ := simulates.mirrored
  cases seeking with
  | unresolved why =>
      rw [State.seek, mirrored.processes.on_unresolved why]
      exact ⟨rfl, simulates⟩
  | stream slot =>
      rw [State.seek, mirrored.processes.on_stream slot]
      exact ⟨rfl, simulates⟩
  | unseekable slot shown positionless =>
      rw [State.seek, mirrored.on_shared slot shown, positionless]
      exact ⟨rfl, simulates⟩
  | baseless slot shown seekable unknown =>
      rw [State.seek, mirrored.on_shared slot shown, seekable, unknown]
      exact ⟨rfl, simulates⟩
  | outside slot shown seekable asked outside =>
      rw [State.seek, mirrored.on_shared slot shown, seekable, asked]
      simp only [if_true, simulates.base_eq]
      rw [if_neg outside]
      exact ⟨rfl, simulates⟩
  | @moved id file base target after slot shown seekable asked landed inside repositioning =>
      rw [State.seek, mirrored.on_shared slot shown, seekable, asked]
      simp only [if_true, simulates.base_eq, ← landed]
      have within : 0 ≤ (target : Int) ∧ (target : Int) < wordLimit := by omega
      rw [if_pos within, Int.toNat_natCast]
      exact ⟨rfl, simulates.reposition mirrored slot repositioning⟩

theorem Simulates.readAt_eq (simulates : Simulates s m) (object : Object) (position length : Nat) :
    Storage.readAt object position length m.storage =
      Storage.readAt object position length s.storage :=
  simulates.storage.readAt object position length

/-- A write has the same answer in both, and storages that answer alike after it. -/
theorem Simulates.writeAt (simulates : Simulates s m) {object : Object} {position : Nat}
    {data : Bytes} {verdict : Except Error Nat} {store : FileTree}
    (answer : Storage.writeAt object position data s.storage = (verdict, store)) :
    ∃ mine, Storage.writeAt object position data m.storage = (verdict, mine) ∧
      Simulates (s.withStorage store) { m with storage := mine } := by
  obtain ⟨same, alike⟩ := simulates.storage.writeAt object position data
  have spares : s.storage.Spares (FileTree.writeAt object position data s.storage).2 :=
    FileTree.spares_writeAt object position data
  change FileTree.writeAt object position data s.storage = (verdict, store) at answer
  rw [answer] at same alike spares
  exact ⟨(FileTree.writeAt object position data m.storage).2, Prod.ext same rfl,
    simulates.withStorage alike (spares.linked simulates.linked) spares.present⟩

variable [ByteDevice κ]

theorem agrees_read {length : Nat} {result : EStateM.Result Stop (Service FileTree κ) Bytes}
    (reading : Service.Reading s pid fd length result) (simulates : Simulates s m) :
    Agrees .data result (m.read pid fd length) := by
  obtain ⟨number, mirrored⟩ := simulates.mirrored
  cases reading with
  | unresolved why =>
      rw [State.read, mirrored.processes.on_unresolved why]
      exact ⟨rfl, simulates⟩
  | forbidden given lacking =>
      have refused : m.read pid fd length = m.refuse .badAccessMode := by
        rw [State.read]
        apply mirrored.on_rights given
        · intro stream same
          rw [streamRights_eq, same, lacking]
          rfl
        · intro _ file same
          rw [same, lacking]
          rfl
      rw [refused]
      exact ⟨rfl, simulates⟩
  | consoleRefused slot readable answer =>
      rw [State.read, mirrored.processes.on_stream slot, streamRights_eq, if_pos readable,
        simulates.console, answer]
      exact ⟨rfl, simulates.withConsole _⟩
  | console slot readable answer =>
      rw [State.read, mirrored.processes.on_stream slot, streamRights_eq, if_pos readable,
        simulates.console, answer]
      exact ⟨rfl, simulates.withConsole _⟩
  | nothing slot shown readable zero =>
      rw [State.read, mirrored.on_shared slot shown, if_pos readable, if_pos zero]
      exact ⟨rfl, simulates⟩
  | refused slot shown readable positive answer =>
      rw [State.read, mirrored.on_shared slot shown, if_pos readable, if_neg positive,
        simulates.readAt_eq, answer]
      exact ⟨rfl, simulates⟩
  | overflow slot shown readable positive answer outside =>
      rw [State.read, mirrored.on_shared slot shown, if_pos readable, if_neg positive,
        simulates.readAt_eq, answer]
      simp only [State.transferred]
      rw [if_neg outside]
      exact ⟨rfl, simulates⟩
  | moved slot shown readable positive answer inside repositioning =>
      rw [State.read, mirrored.on_shared slot shown, if_pos readable, if_neg positive,
        simulates.readAt_eq, answer]
      simp only [State.transferred]
      rw [if_pos inside]
      exact ⟨rfl, simulates.reposition mirrored slot repositioning⟩

theorem agrees_write {data : Bytes} {result : EStateM.Result Stop (Service FileTree κ) Nat}
    (writing : Service.Writing s pid fd data result) (simulates : Simulates s m) :
    Agrees .number result (m.write pid fd data) := by
  obtain ⟨number, mirrored⟩ := simulates.mirrored
  cases writing with
  | unresolved why =>
      rw [State.write, mirrored.processes.on_unresolved why]
      exact ⟨rfl, simulates⟩
  | forbidden given lacking =>
      have refused : m.write pid fd data = m.refuse .badAccessMode := by
        rw [State.write]
        apply mirrored.on_rights given
        · intro stream same
          rw [streamRights_eq, same, lacking]
          rfl
        · intro _ file same
          rw [same, lacking]
          rfl
      rw [refused]
      exact ⟨rfl, simulates⟩
  | consoleRefused slot writable answer =>
      rw [State.write, mirrored.processes.on_stream slot, streamRights_eq, if_pos writable,
        simulates.console, answer]
      exact ⟨rfl, simulates.withConsole _⟩
  | console slot writable answer =>
      rw [State.write, mirrored.processes.on_stream slot, streamRights_eq, if_pos writable,
        simulates.console, answer]
      exact ⟨rfl, simulates.withConsole _⟩
  | nothing slot shown writable zero =>
      rw [State.write, mirrored.on_shared slot shown, if_pos writable, if_pos zero]
      exact ⟨rfl, simulates⟩
  | refused slot shown writable positive answer =>
      obtain ⟨mine, written, after⟩ := simulates.writeAt answer
      rw [State.write, mirrored.on_shared slot shown, if_pos writable, if_neg positive,
        simulates.start_eq, written]
      exact ⟨rfl, after⟩
  | overflow slot shown writable positive answer outside =>
      obtain ⟨mine, written, after⟩ := simulates.writeAt answer
      rw [State.write, mirrored.on_shared slot shown, if_pos writable, if_neg positive,
        simulates.start_eq, written]
      simp only [State.transferred]
      rw [if_neg outside]
      exact ⟨rfl, after⟩
  | moved slot shown writable positive answer inside repositioning =>
      obtain ⟨mine, written, after⟩ := simulates.writeAt answer
      rw [State.write, mirrored.on_shared slot shown, if_pos writable, if_neg positive,
        simulates.start_eq, written]
      simp only [State.transferred]
      rw [if_pos inside]
      exact ⟨rfl, after.reposition mirrored slot repositioning⟩

end Posix

end OpenFiles
