import OpenFiles.Console.MemoryConsole
import OpenFiles.Proofs.Service.Anchors

/-!
# Refused requests

A refused request leaves the tables exactly as they were, whatever it had done to
them before it was refused. What it may leave behind is in the storage: a file that
an open has created or emptied, and one release of the object that the open could
not keep. That object is open nowhere, so no open object is released by a refusal.
-/

namespace OpenFiles

/-- The console after a refusal: nothing was asked of it, or it refused. -/
inductive Declined {κ : Type} [ByteDevice κ] (console : κ) : κ → Prop
  | unasked : Declined console console
  | read {length : Nat} {reason : Error} {after : κ}
      (answer : ByteDevice.read length console = (.error reason, after)) : Declined console after
  | write {data : Bytes} {reason : Error} {after : κ}
      (answer : ByteDevice.write data console = (.error reason, after)) : Declined console after

/-- A memory console that refuses has not changed. -/
theorem MemoryConsole.eq_of_declined {console after : MemoryConsole}
    (declined : Declined console after) : after = console := by
  cases declined with
  | unasked => rfl
  | @read length reason _ answer =>
      cases length with
      | zero => cases answer
      | succ room =>
          cases input : console.input with
          | nil =>
              have empty : readByte console =
                  (.error (if console.hungUp then .inputOutput else .busy), console) := by
                rw [readByte, input]
              simp only [ByteDevice.read, ByteDevice.take, ByteDevice.readByte, empty] at answer
              cases answer
              rfl
          | cons byte rest =>
              have next : readByte console = (.ok byte, { console with input := rest }) := by
                rw [readByte, input]
              simp only [ByteDevice.read, ByteDevice.take, ByteDevice.readByte, next] at answer
              by_cases newline : byte = ByteDevice.newline
              · simp only [if_pos newline] at answer
                cases answer
              · simp only [if_neg newline] at answer
                cases answer
  | @write data reason _ answer =>
      rw [ByteDevice.write, send_eq] at answer
      split at answer
      · rename_i same
        simp at same
      · cases answer

namespace Service

variable {σ κ α β : Type} [ByteDevice κ] {s : Service σ κ}
variable {pid parent child : Pid} {fd old new : Descriptor}

open OpenFiles.Action

/-- A refusal leaves the tables alone, and the console unless that refused. -/
inductive Clean (s : Service σ κ) : EStateM.Result Stop (Service σ κ) α → Prop
  | answered (value : α) (after : Service σ κ) : Clean s (.ok value after)
  | faulted (fault : Fault) (after : Service σ κ) : Clean s (.error (.faulted fault) after)
  | refused (reason : Error) {after : Service σ κ} (tables : after.tables = s.tables)
      (console : Declined s.console after.console) : Clean s (.error (.refused reason) after)

theorem Clean.map {action : Action (Service σ κ) α} (clean : Clean s (action.run s)) (f : α → β) :
    Clean s ((action >>= fun value => pure (f value)).run s) := by
  rw [EStateM.run_bind]
  generalize action.run s = result at clean
  cases clean with
  | answered value after => exact .answered (f value) after
  | faulted fault after => exact .faulted fault after
  | refused reason tables console => exact .refused reason tables console

theorem Clean.of_withCounter {counter : Pid} {result : EStateM.Result Stop (Service σ κ) α}
    (clean : Clean (s.withCounter counter) result) : Clean s result := by
  cases clean with
  | answered value after => exact .answered value after
  | faulted fault after => exact .faulted fault after
  | refused reason tables console => exact .refused reason tables console

theorem Creating.clean {result : EStateM.Result Stop (Service σ κ) Unit}
    (creating : Creating s pid result) : Clean s result := by
  cases creating with
  | created fresh made => exact .answered _ _
  | _ => exact .refused _ rfl .unasked

theorem Forking.clean {result : EStateM.Result Stop (Service σ κ) Unit}
    (forking : Forking s parent child result) : Clean s result := by
  cases forking with
  | forked found fresh arrivals => exact .answered _ _
  | _ => exact .refused _ rfl .unasked

theorem Telling.clean {result : EStateM.Result Stop (Service σ κ) Nat}
    (telling : Telling s pid fd result) : Clean s result := by
  cases telling with
  | told slot shown => exact .answered _ _
  | _ => exact .refused _ rfl .unasked

theorem Checking.clean {asked : Rights} {result : EStateM.Result Stop (Service σ κ) Unit}
    (checking : Checking s pid fd asked result) : Clean s result := by
  cases checking with
  | allowed given covered => exact .answered _ _
  | _ => exact .refused _ rfl .unasked

theorem Listing.clean {result : EStateM.Result Stop (Service σ κ) (List Handle)}
    (listing : Listing s pid fd result) : Clean s result := by
  cases listing with
  | unresolved why => exact .refused _ rfl .unasked
  | _ => exact .answered _ _

variable [Storage σ]

theorem Closing.clean {result : EStateM.Result Stop (Service σ κ) Unit}
    (closing : Closing s pid fd result) : Clean s result := by
  cases closing with
  | closed found populated departures => exact .answered _ _
  | _ => exact .refused _ rfl .unasked

theorem Ending.clean {result : EStateM.Result Stop (Service σ κ) Unit}
    (ending : Ending s pid result) : Clean s result := by
  cases ending with
  | ended found departures => exact .answered _ _
  | _ => exact .refused _ rfl .unasked

theorem Duplicating.clean {result : EStateM.Result Stop (Service σ κ) Descriptor}
    (duplicating : Duplicating s pid old new result) : Clean s result := by
  cases duplicating with
  | unknown missing => exact .refused _ rfl .unasked
  | invalid found invalid => exact .refused _ rfl .unasked
  | _ => exact .answered _ _

theorem Opening.clean {path : String} {flags : OpenFlags} {permission : UInt32}
    {result : EStateM.Result Stop (Service σ κ) Descriptor}
    (opening : Opening s pid path flags permission result) : Clean s result := by
  cases opening with
  | opened asked found answer room free granted entering => exact .answered _ _
  | _ => exact .refused _ rfl .unasked

theorem Removing.clean {path : String} {result : EStateM.Result Stop (Service σ κ) Unit}
    (removing : Removing s path result) : Clean s result := by
  cases removing with
  | removed answer => exact .answered _ _
  | refused answer => exact .refused _ rfl .unasked

theorem Seeking.clean {distance : Int} {whence : Nat}
    {result : EStateM.Result Stop (Service σ κ) Nat}
    (seeking : Seeking s pid fd distance whence result) : Clean s result := by
  cases seeking with
  | moved slot shown seekable asked exact inside repositioning => exact .answered _ _
  | _ => exact .refused _ rfl .unasked

theorem Reading.clean {length : Nat} {result : EStateM.Result Stop (Service σ κ) Bytes}
    (reading : Reading s pid fd length result) : Clean s result := by
  cases reading with
  | unresolved why => exact .refused _ rfl .unasked
  | forbidden given lacking => exact .refused _ rfl .unasked
  | consoleRefused slot readable answer => exact .refused _ rfl (.read answer)
  | refused slot shown readable positive answer => exact .refused _ rfl .unasked
  | overflow slot shown readable positive answer outside => exact .faulted _ _
  | _ => exact .answered _ _

theorem Writing.clean {data : Bytes} {result : EStateM.Result Stop (Service σ κ) Nat}
    (writing : Writing s pid fd data result) : Clean s result := by
  cases writing with
  | unresolved why => exact .refused _ rfl .unasked
  | forbidden given lacking => exact .refused _ rfl .unasked
  | consoleRefused slot writable answer => exact .refused _ rfl (.write answer)
  | refused slot shown writable positive answer => exact .refused _ rfl .unasked
  | overflow slot shown writable positive answer outside => exact .faulted _ _
  | _ => exact .answered _ _

/-- Whatever a request is, its refusal is clean. -/
theorem perform_clean (balanced : s.tables.Balanced) (request : Request) :
    Clean s ((perform request).run s) := by
  cases request with
  | createProcess pid => exact (creating s pid).clean.map fun _ => Reply.done
  | spawn =>
      refine Clean.map ?_ Reply.process
      rw [run_spawn]
      exact ((creating _ s.freshPid).clean.map fun _ => s.freshPid).of_withCounter
  | fork parent =>
      refine Clean.map ?_ Reply.process
      rw [run_fork]
      split
      · have counted : (s.withCounter s.freshPid.next).tables.Balanced := balanced
        exact ((forking counted).clean.map fun _ => s.freshPid).of_withCounter
      · exact .refused _ rfl .unasked
  | forkProcess parent child => exact (forking balanced).clean.map fun _ => Reply.done
  | endProcess pid => exact (ending balanced).clean.map fun _ => Reply.done
  | openPath pid path flags permission => exact (opening balanced).clean.map Reply.descriptor
  | close pid fd => exact (closing balanced).clean.map fun _ => Reply.done
  | duplicate pid old new => exact (duplicating balanced).clean.map Reply.descriptor
  | requireRights pid fd asked => exact (checking balanced asked).clean.map fun _ => Reply.done
  | read pid fd length => exact (reading balanced length).clean.map Reply.data
  | write pid fd data => exact (writing balanced data).clean.map Reply.number
  | seek pid fd distance whence => exact (seeking balanced distance whence).clean.map Reply.number
  | tell pid fd => exact (telling balanced).clean.map Reply.number
  | members pid fd => exact (listing balanced).clean.map Reply.handles
  | workingDirectory =>
      refine Clean.map ?_ Reply.text
      simp only [workingDirectory, EStateM.run_bind, EStateM.run_get]
      cases Storage.workingDirectory s.storage with
      | ok path => exact .answered _ _
      | error reason => exact .refused _ rfl .unasked
  | remove path => exact (removing s path).clean.map fun _ => Reply.done

/-- The answer and the state of a request that was refused. -/
theorem refused_next (balanced : s.tables.Balanced) {request : Request} {reason : Error}
    (refused : ((perform request).outcome s).1 = .error (.refused reason)) :
    (s.next request).tables = s.tables ∧ Declined s.console (s.next request).console := by
  have clean := perform_clean balanced request
  rw [next_eq]
  rw [outcome_eq] at refused
  generalize (perform request).run s = result at clean refused
  cases clean with
  | answered value after => cases refused
  | faulted fault after => cases refused
  | refused reason tables console => exact ⟨tables, console⟩

end Service

namespace Service

open FileTree

variable {s : Service FileTree MemoryConsole}

/-- A refused request leaves all tables and the console as they were, and releases
nothing that is open. -/
theorem untouched_of_refused (reached : Reachable Administered s) {request : Request}
    {reason : Error} (refused : ((perform request).outcome s).1 = .error (.refused reason)) :
    (s.next request).tables = s.tables ∧ (s.next request).console = s.console ∧
      (∀ object, s.Holds object →
        (s.next request).storage.releasesAt object.node = s.storage.releasesAt object.node) ∧
      ((s.next request).storage.Identifies → ∀ inode, s.Refers inode →
        (s.next request).storage.closes inode = s.storage.closes inode) := by
  obtain ⟨tables, declined⟩ := refused_next reached.balanced refused
  have effect := effect_next reached.balanced request
  have stays (inode : Inode) (refers : s.Refers inode) : (s.next request).Refers inode := by
    rwa [Refers, tables]
  refine ⟨tables, MemoryConsole.eq_of_declined declined, ?_, ?_⟩
  · intro object held
    exact effect.releasesAt reached.anchored held
      (stays object.inode (refers_iff_holds.mpr ⟨object, held, rfl⟩))
  · intro apart inode refers
    rw [effect.closes reached.anchored apart, if_neg fun both => both.2 (stays inode refers)]
    rfl

/-- The only row is taken, and another device finds none. -/
theorem untouched_when_system_full :
    ∃ start : Service FileTree MemoryConsole,
      build ⟨1, 5⟩ FileTree.initial (.ofCapacity 4) = .ok start ∧
      ((perform (.openPath ⟨1⟩ "/dev/tty" (.ofBits 0) 0)).outcome
        (start.after [.createProcess ⟨1⟩, .openPath ⟨1⟩ "/dev/null" (.ofBits 2) 0])).1 =
          .error (.refused .tooManyOpenInSystem) ∧
      (start.after [.createProcess ⟨1⟩, .openPath ⟨1⟩ "/dev/null" (.ofBits 2) 0,
        .openPath ⟨1⟩ "/dev/tty" (.ofBits 0) 0]).tables =
      (start.after [.createProcess ⟨1⟩, .openPath ⟨1⟩ "/dev/null" (.ofBits 2) 0]).tables := by
  have built : build ⟨1, 5⟩ FileTree.initial (MemoryConsole.ofCapacity 4) = .ok _ := rfl
  have reached : Reachable Administered _ := Reachable.built built
  have before := reached.after [.createProcess ⟨1⟩, .openPath ⟨1⟩ "/dev/null" (.ofBits 2) 0]
  refine ⟨_, built, rfl, ?_⟩
  exact (@untouched_of_refused _ before (.openPath ⟨1⟩ "/dev/tty" (.ofBits 0) 0)
    .tooManyOpenInSystem rfl).1

/-- Where memory has room for one group, the second open gets none. -/
example :
    (build ⟨4, 6⟩ FileTree.initial (MemoryConsole.ofCapacity 4) { groups := some 1 }).map
        (fun s => ((perform (.openPath ⟨1⟩ "/dev/tty" (.ofBits 0) 0)).outcome
          (s.after [.createProcess ⟨1⟩, .openPath ⟨1⟩ "/dev/null" (.ofBits 2) 0])).1) =
      .ok (.error (.refused .noMemory)) := rfl

end Service

end OpenFiles
