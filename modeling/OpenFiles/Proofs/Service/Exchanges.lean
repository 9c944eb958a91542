import OpenFiles.Proofs.Console.Accounts
import OpenFiles.Proofs.Service.Appends
import OpenFiles.Proofs.Storage.Views

/-!
# What a transfer moves

A read takes bytes from a file or from the console, and a write hands bytes to one of the
two. `Taken` and `Sent` say which bytes these are and what has become of the service: a
transfer on a file moves the cursor of one group, one on the console moves no cursor, and
no descriptor table changes. A transfer that stops leaves everything as it was. These are
the outcomes of a transfer with the storage and the console seen through their views.
-/

namespace OpenFiles

namespace Tables

variable {tables after : Tables} {handle : Handle} {id : GroupId} {cursor : Nat}
variable {refs : List Reference}

/-- The group behind a handle has its cursor at a given position. All its members see it
there, and nobody else sees any change. -/
structure Positioned (tables : Tables) (handle : Handle) (cursor : Nat) (after : Tables) :
    Prop where
  system : after.system = tables.system
  processes : after.processes = tables.processes
  targets : ∀ member, after.target? member = (tables.target? member).map fun file =>
    if tables.slot? member = tables.slot? handle then { file with cursor := cursor } else file

/-- A cursor can be put where it is. -/
theorem Positioned.refl {file : OpenFile} (target : tables.target? handle = some file) :
    Positioned tables handle file.cursor tables where
  system := rfl
  processes := rfl
  targets member := by
    by_cases same : tables.slot? member = tables.slot? handle
    · have there : tables.target? member = some file := by
        rw [Tables.target?, same, ← Tables.target?, target]
      rw [there, Option.map_some, if_pos same]
    · simp only [if_neg same, Option.map_id']

theorem Repositioning.positioned (repositioning : Repositioning tables id cursor refs after)
    (slot : tables.slot? handle = some (.shared id)) :
    Positioned tables handle cursor after where
  system := repositioning.system
  processes := repositioning.processes
  targets member := by
    rw [slot, Tables.target?, repositioning.slot?, Tables.target?]
    split
    · rename_i other there
      simp only [there, repositioning.files, Option.some.injEq, Slot.shared.injEq]
      by_cases here : id = other
      · subst here
        simp
      · simp [here, Ne.symm here]
    · rfl

end Tables

namespace Service

open OpenFiles.Action ConsoleView StorageView

variable {σ κ : Type} [ConsoleView κ] {s later : Service σ κ} {pid : Pid} {fd : Descriptor}

/-- Nothing has happened to the service. Its console may have been asked, but neither of
its two ends has moved. -/
structure Untouched (s later : Service σ κ) : Prop where
  frame : later = s.withConsole later.console
  console : Moved s.console [] [] later.console

theorem Untouched.refl (s : Service σ κ) : Untouched s s := ⟨rfl, .refl s.console⟩

theorem Untouched.processes (untouched : Untouched s later) :
    later.tables.processes = s.tables.processes := by
  rw [untouched.frame]
  rfl

variable [StorageView σ]

/-- The data was taken from what a handle refers to: from a file at its cursor, which is
behind the data now for all that share it, or from the input of the console. -/
inductive Taken (s : Service σ κ) (handle : Handle) (data : Bytes) : Service σ κ → Prop
  | file {file : OpenFile} {after : Tables} (target : s.tables.target? handle = some file)
      (readable : file.rights.read = true)
      (held : Contains s.storage file.object.node file.cursor data)
      (positioned : s.tables.Positioned handle (file.cursor + data.length) after) :
      Taken s handle data (s.withTables after)
  | console {stream : StandardStream} {console : κ}
      (slot : s.tables.slot? handle = some (.stream stream))
      (readable : stream.rights.read = true) (moved : Moved s.console data [] console) :
      Taken s handle data (s.withConsole console)

theorem Taken.processes {handle : Handle} {data : Bytes} (taken : Taken s handle data later) :
    later.tables.processes = s.tables.processes := by
  cases taken with
  | file target readable held positioned => exact positioned.processes
  | console slot readable moved => rfl

variable [Storage σ]

/-- The data was handed to what a handle refers to: to a file at the place where its writes
start, with the cursor behind the data now for all that share it, or to the output of the
console. A write of no bytes may leave even the cursor where it was. -/
inductive Sent (s : Service σ κ) (handle : Handle) (data : Bytes) : Service σ κ → Prop
  | nothing (zero : data = []) : Sent s handle data s
  | file {file : OpenFile} {store : σ} {after : Tables}
      (target : s.tables.target? handle = some file) (writable : file.rights.write = true)
      (landed : Landed s.storage file.object.node (file.start s.storage) data store)
      (positioned : s.tables.Positioned handle (file.start s.storage + data.length) after) :
      Sent s handle data ((s.withStorage store).withTables after)
  | console {stream : StandardStream} {console : κ}
      (slot : s.tables.slot? handle = some (.stream stream))
      (writable : stream.rights.write = true) (moved : Moved s.console [] data console) :
      Sent s handle data (s.withConsole console)

theorem Sent.processes {handle : Handle} {data : Bytes} (sent : Sent s handle data later) :
    later.tables.processes = s.tables.processes := by
  cases sent with
  | nothing zero => rfl
  | file target writable landed positioned => exact positioned.processes
  | console slot writable moved => rfl

variable [ByteDevice κ] [LawfulConsole κ]

omit [StorageView σ] in
theorem Reading.untouched {length : Nat} {stop : Stop}
    (reading : Reading s pid fd length (.error stop later)) : Untouched s later := by
  cases reading with
  | unresolved why => exact .refl s
  | forbidden given lacking => exact .refl s
  | consoleRefused slot readable answer => exact ⟨rfl, ByteDevice.moved_of_read_error answer⟩
  | refused slot shown readable positive answer => exact .refl s
  | overflow slot shown readable positive answer outside => exact .refl s

variable [LawfulStorage σ]

theorem Reading.taken {length : Nat} {data : Bytes}
    (reading : Reading s pid fd length (.ok data later)) :
    data.length ≤ length ∧ Taken s ⟨pid, fd⟩ data later := by
  cases reading with
  | console slot readable answer =>
    obtain ⟨within, moved⟩ := ByteDevice.moved_of_read answer
    exact ⟨within, .console slot readable moved⟩
  | nothing slot shown readable zero =>
    have target := Tables.target?_eq_some.mpr ⟨_, slot, shown⟩
    exact ⟨Nat.zero_le _, .file target readable rfl (.refl target)⟩
  | moved slot shown readable positive answer inside repositioning =>
    obtain ⟨within, held⟩ := LawfulStorage.contains_of_readAt answer
    have target := Tables.target?_eq_some.mpr ⟨_, slot, shown⟩
    exact ⟨within, .file target readable held (repositioning.positioned slot)⟩

theorem Writing.sent {count : Nat} {data : Bytes}
    (writing : Writing s pid fd data (.ok count later)) :
    count ≤ data.length ∧ Sent s ⟨pid, fd⟩ (data.take count) later := by
  cases writing with
  | console slot writable answer =>
    obtain ⟨within, moved⟩ := ByteDevice.moved_of_write answer
    exact ⟨within, .console slot writable moved⟩
  | nothing slot shown writable zero => exact ⟨Nat.zero_le _, .nothing rfl⟩
  | @moved id file count store after slot shown writable positive answer inside repositioning =>
    have target := Tables.target?_eq_some.mpr ⟨_, slot, shown⟩
    have written := LawfulStorage.written s.storage file.object (file.start s.storage) data
    rw [answer] at written
    cases written with
    | granted within landed =>
      have amount : (data.take count).length = count := List.length_take_of_le within
      refine ⟨within, .file target writable landed ?_⟩
      rw [amount]
      exact repositioning.positioned slot

theorem Writing.untouched {data : Bytes} {stop : Stop}
    (writing : Writing s pid fd data (.error stop later)) : Untouched s later := by
  cases writing with
  | unresolved why => exact .refl s
  | forbidden given lacking => exact .refl s
  | consoleRefused slot writable answer => exact ⟨rfl, ByteDevice.moved_of_write_error answer⟩
  | @refused id file reason store slot shown writable positive answer =>
    have written := LawfulStorage.written s.storage file.object (file.start s.storage) data
    rw [answer] at written
    cases written with
    | refused reason => exact .refl s
  | @overflow id file count store slot shown writable positive answer outside =>
    have written := LawfulStorage.written s.storage file.object (file.start s.storage) data
    rw [answer] at written
    cases written with
    | granted within landed =>
      have amount : (data.take count).length = count := List.length_take_of_le within
      rw [landed.eq_of_outside (by rwa [amount])]
      exact .refl s

end Service

end OpenFiles
