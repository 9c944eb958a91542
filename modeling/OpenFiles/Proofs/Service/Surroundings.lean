import OpenFiles.Proofs.Service.Sizes

/-!
# What a request leaves alone

A request changes the descriptor table of one process at most. The counter of process
identifiers moves only when an identifier is to be chosen, and the console is asked only by
transfers through the standard streams. `Sparing` puts the three together for one operation.
-/

namespace OpenFiles

def Request.ChoosesPid : Request → Prop
  | .spawn => True
  | .fork _ => True
  | _ => False

namespace Service

variable {σ κ : Type} {s : Service σ κ} {pid parent child : Pid} {fd old new : Descriptor}
variable {touched : Pid → Prop} {quiet : Prop}

open OpenFiles.Action

/-- Tables are changed only where `touched` allows it, and the console only if the operation
is not a quiet one. -/
structure Sparing (quiet : Prop) (s : Service σ κ) (touched : Pid → Prop) (after : Service σ κ) :
    Prop where
  others : ∀ other, ¬ touched other →
    after.tables.processes.get? other = s.tables.processes.get? other
  counter : after.pidCounter = s.pidCounter
  console : quiet → after.console = s.console

theorem Sparing.refl (s : Service σ κ) : Sparing quiet s touched s :=
  ⟨fun _ _ => rfl, rfl, fun _ => rfl⟩

theorem Sparing.mono {quiet' : Prop} {after : Service σ κ} (sparing : Sparing quiet s touched after)
    (weaken : quiet' → quiet) : Sparing quiet' s touched after :=
  ⟨sparing.others, sparing.counter, fun silent => sparing.console (weaken silent)⟩

/-- One process gets another table. -/
theorem Sparing.of_insert {after : Service σ κ} {table : DescriptorTable}
    (processes : after.tables.processes = s.tables.processes.insert pid table)
    (counter : after.pidCounter = s.pidCounter) (console : after.console = s.console) :
    Sparing quiet s (· = pid) after where
  others other elsewhere := by
    rw [processes]
    exact OrderedMap.get?_insert_of_ne _ (Ne.symm elsewhere) _
  counter := counter
  console _ := console

theorem Sparing.of_same {after : Service σ κ}
    (processes : after.tables.processes = s.tables.processes)
    (counter : after.pidCounter = s.pidCounter) (console : quiet → after.console = s.console) :
    Sparing quiet s touched after where
  others other _ := by rw [processes]
  counter := counter
  console := console

theorem Creating.sparing {result : EStateM.Result Stop (Service σ κ) Unit}
    (creating : Creating s pid result) : Sparing quiet s (· = pid) (stateOf result) := by
  cases creating with
  | created fresh made => exact .of_insert rfl rfl rfl
  | _ => exact .refl s

theorem Forking.sparing {result : EStateM.Result Stop (Service σ κ) Unit}
    (forking : Forking s parent child result) : Sparing quiet s (· = child) (stateOf result) := by
  cases forking with
  | forked found fresh arrivals => exact .of_insert rfl rfl rfl
  | _ => exact .refl s

theorem Telling.sparing {result : EStateM.Result Stop (Service σ κ) Nat}
    (telling : Telling s pid fd result) : Sparing quiet s touched (stateOf result) := by
  cases telling <;> exact .refl s

theorem Checking.sparing {asked : Rights} {result : EStateM.Result Stop (Service σ κ) Unit}
    (checking : Checking s pid fd asked result) : Sparing quiet s touched (stateOf result) := by
  cases checking <;> exact .refl s

theorem Listing.sparing {result : EStateM.Result Stop (Service σ κ) (List Handle)}
    (listing : Listing s pid fd result) : Sparing quiet s touched (stateOf result) := by
  cases listing <;> exact .refl s

variable [Storage σ]

theorem Closing.sparing {result : EStateM.Result Stop (Service σ κ) Unit}
    (closing : Closing s pid fd result) : Sparing quiet s (· = pid) (stateOf result) := by
  cases closing with
  | closed found populated departures => exact .of_insert departures.processes rfl rfl
  | _ => exact .refl s

theorem Ending.sparing {result : EStateM.Result Stop (Service σ κ) Unit}
    (ending : Ending s pid result) : Sparing quiet s (· = pid) (stateOf result) := by
  cases ending with
  | unknown missing => exact .refl s
  | ended found departures =>
      refine ⟨?_, rfl, fun _ => rfl⟩
      intro other elsewhere
      have processes := departures.processes
      exact (congrArg (OrderedMap.get? · other) processes).trans
        (OrderedMap.get?_erase_of_ne _ (Ne.symm elsewhere))

theorem Duplicating.sparing {result : EStateM.Result Stop (Service σ κ) Descriptor}
    (duplicating : Duplicating s pid old new result) :
    Sparing quiet s (· = pid) (stateOf result) := by
  cases duplicating with
  | stream found slot apart inRange departures => exact .of_insert rfl rfl rfl
  | shared found slot apart inRange departures joining => exact .of_insert rfl rfl rfl
  | _ => exact .refl s

theorem Opening.sparing {path : String} {flags : OpenFlags} {permission : UInt32}
    {result : EStateM.Result Stop (Service σ κ) Descriptor}
    (opening : Opening s pid path flags permission result) :
    Sparing quiet s (· = pid) (stateOf result) := by
  cases opening with
  | opened asked found answer room free granted entering => exact .of_insert rfl rfl rfl
  | _ => exact .of_same rfl rfl fun _ => rfl

theorem Removing.sparing {path : String} {result : EStateM.Result Stop (Service σ κ) Unit}
    (removing : Removing s path result) : Sparing quiet s touched (stateOf result) := by
  cases removing <;> exact .of_same rfl rfl fun _ => rfl

theorem Seeking.sparing {distance : Int} {whence : Nat}
    {result : EStateM.Result Stop (Service σ κ) Nat}
    (seeking : Seeking s pid fd distance whence result) :
    Sparing quiet s touched (stateOf result) := by
  cases seeking with
  | moved slot shown seekable asked exact inside repositioning =>
      exact .of_same repositioning.processes rfl fun _ => rfl
  | _ => exact .refl s

variable [ByteDevice κ]

def ReadsInput (s : Service σ κ) : Request → Prop
  | .read pid fd _ => s.tables.slot? ⟨pid, fd⟩ = some (.stream .input)
  | _ => False

def WritesOutput (s : Service σ κ) : Request → Prop
  | .write pid fd _ => s.tables.slot? ⟨pid, fd⟩ = some (.stream .output) ∨
      s.tables.slot? ⟨pid, fd⟩ = some (.stream .errors)
  | _ => False

omit [Storage σ] [ByteDevice κ] in
/-- Of the standard streams only the input can be read. -/
theorem readsInput_of_readable {stream : StandardStream} {length : Nat}
    (slot : s.tables.slot? ⟨pid, fd⟩ = some (.stream stream))
    (readable : stream.rights.read = true) : s.ReadsInput (.read pid fd length) := by
  cases stream with
  | input => exact slot
  | output => cases readable
  | errors => cases readable

omit [Storage σ] [ByteDevice κ] in
theorem writesOutput_of_writable {stream : StandardStream} {data : Bytes}
    (slot : s.tables.slot? ⟨pid, fd⟩ = some (.stream stream))
    (writable : stream.rights.write = true) : s.WritesOutput (.write pid fd data) := by
  cases stream with
  | input => cases writable
  | output => exact .inl slot
  | errors => exact .inr slot

theorem Reading.sparing {length : Nat} {result : EStateM.Result Stop (Service σ κ) Bytes}
    (reading : Reading s pid fd length result) :
    Sparing (¬ s.ReadsInput (.read pid fd length)) s touched (stateOf result) := by
  cases reading with
  | consoleRefused slot readable answer =>
      exact .of_same rfl rfl fun quiet => absurd (readsInput_of_readable slot readable) quiet
  | console slot readable answer =>
      exact .of_same rfl rfl fun quiet => absurd (readsInput_of_readable slot readable) quiet
  | moved slot shown readable positive answer inside repositioning =>
      exact .of_same repositioning.processes rfl fun _ => rfl
  | _ => exact .refl s

theorem Writing.sparing {data : Bytes} {result : EStateM.Result Stop (Service σ κ) Nat}
    (writing : Writing s pid fd data result) :
    Sparing (¬ s.WritesOutput (.write pid fd data)) s touched (stateOf result) := by
  cases writing with
  | consoleRefused slot writable answer =>
      exact .of_same rfl rfl fun quiet => absurd (writesOutput_of_writable slot writable) quiet
  | console slot writable answer =>
      exact .of_same rfl rfl fun quiet => absurd (writesOutput_of_writable slot writable) quiet
  | moved slot shown writable positive answer inside repositioning =>
      exact .of_same repositioning.processes rfl fun _ => rfl
  | _ => exact .of_same rfl rfl fun _ => rfl

/-- The process whose table a request may change. -/
def MayChange (s : Service σ κ) : Request → Pid → Prop
  | .createProcess pid, other => other = pid
  | .spawn, other => other = s.freshPid
  | .fork _, other => other = s.freshPid
  | .forkProcess _ child, other => other = child
  | .endProcess pid, other => other = pid
  | .openPath pid _ _ _, other => other = pid
  | .close pid _, other => other = pid
  | .duplicate pid _ _, other => other = pid
  | _, _ => False

/-- A request that names all processes it is about. -/
theorem perform_sparing (balanced : s.tables.Balanced) {request : Request}
    (named : ¬ request.ChoosesPid) :
    Sparing (¬ s.ReadsInput request ∧ ¬ s.WritesOutput request) s (s.MayChange request)
      (s.next request) := by
  rw [next_eq]
  cases request with
  | createProcess pid =>
      rw [perform, stateOf_map]
      exact (creating s pid).sparing
  | spawn => exact (named trivial).elim
  | fork parent => exact (named trivial).elim
  | forkProcess parent child =>
      rw [perform, stateOf_map]
      exact (forking balanced).sparing
  | endProcess pid =>
      rw [perform, stateOf_map]
      exact (ending balanced).sparing
  | openPath pid path flags permission =>
      rw [perform, stateOf_map]
      exact (opening balanced).sparing
  | close pid fd =>
      rw [perform, stateOf_map]
      exact (closing balanced).sparing
  | duplicate pid old new =>
      rw [perform, stateOf_map]
      exact (duplicating balanced).sparing
  | requireRights pid fd asked =>
      rw [perform, stateOf_map]
      exact (checking balanced asked).sparing
  | read pid fd length =>
      rw [perform, stateOf_map]
      exact (reading balanced length).sparing.mono And.left
  | write pid fd data =>
      rw [perform, stateOf_map]
      exact (writing balanced data).sparing.mono And.right
  | seek pid fd distance whence =>
      rw [perform, stateOf_map]
      exact (seeking balanced distance whence).sparing
  | tell pid fd =>
      rw [perform, stateOf_map]
      exact (telling balanced).sparing
  | members pid fd =>
      rw [perform, stateOf_map]
      exact (listing balanced).sparing
  | workingDirectory =>
      rw [perform, stateOf_map, stateOf_workingDirectory]
      exact .refl s
  | remove path =>
      rw [perform, stateOf_map]
      exact (removing s path).sparing

/-- A request that chooses an identifier moves the counter first. -/
theorem choosing_sparing (balanced : s.tables.Balanced) {request : Request}
    (chooses : request.ChoosesPid) :
    ∃ counter, Sparing True (s.withCounter counter) (s.MayChange request) (s.next request) := by
  rw [next_eq]
  cases request with
  | spawn =>
      refine ⟨s.freshPid.next, ?_⟩
      rw [perform, stateOf_map, run_spawn, stateOf_map]
      exact (creating _ s.freshPid).sparing
  | fork parent =>
      have counted : (s.withCounter s.freshPid.next).tables.Balanced := balanced
      rw [perform, stateOf_map, run_fork]
      split
      · refine ⟨s.freshPid.next, ?_⟩
        rw [stateOf_map]
        exact (forking counted).sparing
      · exact ⟨s.pidCounter.next, .refl _⟩
  | _ => exact chooses.elim

/-- Tables of processes that a request is not about stay as they are. -/
theorem get?_next (balanced : s.tables.Balanced) {request : Request} {other : Pid}
    (elsewhere : ¬ s.MayChange request other) :
    (s.next request).tables.processes.get? other = s.tables.processes.get? other := by
  by_cases chooses : request.ChoosesPid
  · obtain ⟨counter, sparing⟩ := choosing_sparing balanced chooses
    exact sparing.others other elsewhere
  · exact (perform_sparing balanced chooses).others other elsewhere

/-- Requests that do not go to the console leave it alone. -/
theorem console_next (balanced : s.tables.Balanced) {request : Request}
    (reads : ¬ s.ReadsInput request) (writes : ¬ s.WritesOutput request) :
    (s.next request).console = s.console := by
  by_cases chooses : request.ChoosesPid
  · obtain ⟨counter, sparing⟩ := choosing_sparing balanced chooses
    exact sparing.console trivial
  · exact (perform_sparing balanced chooses).console ⟨reads, writes⟩

end Service

end OpenFiles
