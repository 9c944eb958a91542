import OpenFiles.Proofs.Service.Copying
import OpenFiles.Proofs.Service.Opening
import OpenFiles.Proofs.Service.Transfers
import OpenFiles.Service.Request

/-!
# Runs of the service

Each outcome of an operation leaves balanced tables, and no fault comes out of any
but one: a transfer whose cursor would be no word. `perform_orderly` puts the
outcomes together for all requests. `Reachable` are the states that a service can
get into from the day it is built. Other users of the storage and of the console
may be at work between its requests; what they may do to the storage is a
parameter.
-/

namespace OpenFiles

namespace Tables

variable {tables after : Tables} {refs : List Reference}

/-- Without groups and open objects there is nothing to account for. -/
theorem accounts_of_empty {system : OpenTable} (unused : ∀ row, system.holding? row = none) :
    Accounts ⟨system, .empty, ∅⟩ [] where
  distinct := .nil
  enrolled handle id := by
    constructor
    · intro member
      exact absurd member List.not_mem_nil
    · rintro ⟨group, live, _⟩
      cases live
  populated id group live := by cases live
  counted row := OpenTable.handles_eq_zero_of_free (unused row)
  positive row holding found := by
    rw [unused] at found
    cases found
  separate row row' holding holding' found := by
    rw [unused] at found
    cases found
  tidy := GroupArena.tidy_empty

/-- Accounts for the references of the processes, in whatever order. -/
theorem Accounts.balanced (accounts : tables.Accounts refs)
    (same : refs.Perm (referencesOf tables.processes)) : tables.Balanced :=
  accounts.perm same

theorem Departures.balanced {leaving : List Reference} {gone : List Object}
    (departures : Departures tables leaving (referencesOf tables.processes) gone after) :
    after.Balanced := by
  apply departures.accounts.balanced
  rw [departures.processes]

theorem Repositioning.balanced {id : GroupId} {cursor : Nat}
    (repositioning : Repositioning tables id cursor tables.references after) : after.Balanced := by
  apply repositioning.accounts.balanced
  rw [repositioning.processes]
  exact .refl _

end Tables

namespace Action

variable {s α : Type}

def stateOf : EStateM.Result Stop s α → s
  | .ok _ after => after
  | .error _ after => after

/-- A sequence that gets through gets through both parts. -/
theorem ok_of_bind {β : Type} {action : Action s α} {next : α → Action s β} {state after : s}
    {answer : β} (went : (action >>= next).run state = .ok answer after) :
    ∃ value middle, action.run state = .ok value middle ∧
      (next value).run middle = .ok answer after := by
  rw [EStateM.run_bind] at went
  cases first : action.run state with
  | ok value middle =>
      rw [first] at went
      exact ⟨value, middle, rfl, went⟩
  | error stop middle =>
      rw [first] at went
      cases went

theorem outcome_eq (action : Action s α) (state : s) :
    action.outcome state =
      match action.run state with
      | .ok value after => (.ok value, after)
      | .error stop after => (.error stop, after) := rfl

end Action

namespace Service

variable {σ κ α β : Type} {s : Service σ κ} {pid parent child : Pid} {fd old new : Descriptor}

open OpenFiles.Action

/-- Balanced tables are left behind, and the only fault is an overflowing cursor, which
takes a request that is too much for its cursor. -/
inductive Orderly (tooMuch : Prop) : EStateM.Result Stop (Service σ κ) α → Prop
  | answered (value : α) {after : Service σ κ} (balanced : after.tables.Balanced) :
      Orderly tooMuch (.ok value after)
  | refused (reason : Error) {after : Service σ κ} (balanced : after.tables.Balanced) :
      Orderly tooMuch (.error (.refused reason) after)
  | overflow (asked : tooMuch) {after : Service σ κ} (balanced : after.tables.Balanced) :
      Orderly tooMuch (.error (.faulted .wordOverflow) after)

variable {tooMuch : Prop}

theorem Orderly.balanced {result : EStateM.Result Stop (Service σ κ) α}
    (orderly : Orderly tooMuch result) : (stateOf result).tables.Balanced := by
  cases orderly with
  | answered value balanced => exact balanced
  | refused reason balanced => exact balanced
  | overflow asked balanced => exact balanced

/-- What is made of an answer does not matter. -/
theorem Orderly.map {action : Action (Service σ κ) α} (orderly : Orderly tooMuch (action.run s))
    (f : α → β) : Orderly tooMuch ((action >>= fun value => pure (f value)).run s) := by
  rw [EStateM.run_bind]
  generalize action.run s = result at orderly
  cases orderly with
  | answered value balanced => exact .answered (f value) balanced
  | refused reason balanced => exact .refused reason balanced
  | overflow asked balanced => exact .overflow asked balanced

theorem Creating.orderly {result : EStateM.Result Stop (Service σ κ) Unit}
    (creating : Creating s pid result) (balanced : s.tables.Balanced) :
    Orderly tooMuch result := by
  cases creating with
  | taken present => exact .refused _ balanced
  | huge large => exact .refused _ balanced
  | @created table journal fresh made =>
      refine .answered _ ?_
      refine (balanced.of_processes (s.tables.processes.insert pid table)).balanced ?_
      exact (referencesOf_insert_ofSize fresh made).symm

theorem Forking.orderly {result : EStateM.Result Stop (Service σ κ) Unit}
    (forking : Forking s parent child result) (balanced : s.tables.Balanced) :
    Orderly tooMuch result := by
  cases forking with
  | unknown missing => exact .refused _ balanced
  | taken found present => exact .refused _ balanced
  | @forked table after journal found fresh arrivals =>
      refine .answered _ ?_
      refine (arrivals.accounts.of_processes (s.tables.processes.insert child table)).balanced ?_
      exact (referencesOf_insert_fresh fresh table).symm

section Queries

theorem Telling.orderly {result : EStateM.Result Stop (Service σ κ) Nat}
    (telling : Telling s pid fd result) (balanced : s.tables.Balanced) :
    Orderly tooMuch result := by
  cases telling with
  | unresolved why => exact .refused _ balanced
  | stream slot => exact .refused _ balanced
  | told slot shown => exact .answered _ balanced

theorem Checking.orderly {asked : Rights} {result : EStateM.Result Stop (Service σ κ) Unit}
    (checking : Checking s pid fd asked result) (balanced : s.tables.Balanced) :
    Orderly tooMuch result := by
  cases checking with
  | unresolved why => exact .refused _ balanced
  | forbidden given lacking => exact .refused _ balanced
  | allowed given covered => exact .answered _ balanced

theorem Listing.orderly {result : EStateM.Result Stop (Service σ κ) (List Handle)}
    (listing : Listing s pid fd result) (balanced : s.tables.Balanced) :
    Orderly tooMuch result := by
  cases listing with
  | unresolved why => exact .refused _ balanced
  | stream slot => exact .answered _ balanced
  | shared slot enrolled => exact .answered _ balanced

end Queries

/-- A service that could be built, with nothing open yet. -/
theorem eq_of_build {capacities : Capacities} {storage : σ} {console : κ}
    {allotment : Allotment} (built : build capacities storage console allotment = .ok s) :
    capacities.check = .ok () ∧ ∃ system journal,
      OpenTable.ofSize capacities.systemRows allotment.bytes = .ok system ∧
        s = ⟨capacities, allotment, ⟨system, .empty, ∅⟩, storage, console, ⟨1⟩, journal⟩ := by
  rw [build] at built
  cases checked : capacities.check with
  | error reason =>
      rw [checked] at built
      cases built
  | ok _ =>
      cases made : OpenTable.ofSize capacities.systemRows allotment.bytes with
      | error reason =>
          rw [checked, made] at built
          cases built
      | ok system =>
          rw [checked, made] at built
          cases built
          exact ⟨rfl, system, _, rfl, rfl⟩

theorem tables_of_build {capacities : Capacities} {storage : σ} {console : κ}
    {allotment : Allotment} (built : build capacities storage console allotment = .ok s) :
    ∃ system, s.tables = ⟨system, .empty, ∅⟩ ∧ ∀ row, system.holding? row = none := by
  obtain ⟨_, system, journal, made, rfl⟩ := eq_of_build built
  exact ⟨system, rfl, OpenTable.holding?_ofSize made⟩

theorem balanced_of_build {capacities : Capacities} {storage : σ} {console : κ}
    {allotment : Allotment} (built : build capacities storage console allotment = .ok s) :
    s.tables.Balanced := by
  obtain ⟨system, tables, unused⟩ := tables_of_build built
  rw [tables]
  exact Tables.accounts_of_empty unused

variable [Storage σ]

theorem Closing.orderly {result : EStateM.Result Stop (Service σ κ) Unit}
    (closing : Closing s pid fd result) (balanced : s.tables.Balanced) :
    Orderly tooMuch result := by
  cases closing with
  | unknown missing => exact .refused _ balanced
  | empty found vacant => exact .refused _ balanced
  | closed found populated departures => exact .answered _ departures.balanced

theorem Ending.orderly {result : EStateM.Result Stop (Service σ κ) Unit}
    (ending : Ending s pid result) (balanced : s.tables.Balanced) :
    Orderly tooMuch result := by
  cases ending with
  | unknown missing => exact .refused _ balanced
  | ended found departures => exact .answered _ departures.balanced

theorem Duplicating.orderly {result : EStateM.Result Stop (Service σ κ) Descriptor}
    (duplicating : Duplicating s pid old new result) (balanced : s.tables.Balanced) :
    Orderly tooMuch result := by
  cases duplicating with
  | unknown missing => exact .refused _ balanced
  | invalid found invalid => exact .refused _ balanced
  | itself found populated same => exact .answered _ balanced
  | @stream table stream gone middle journal found slot apart inRange departures =>
      refine .answered _ ?_
      refine (departures.accounts.of_processes _).balanced ?_
      exact (referencesOf_insert_assign_stream s.tables.processes pid inRange stream).symm
  | @shared table id gone middle after journal found slot apart inRange departures joining =>
      refine .answered _ ?_
      refine (joining.accounts.of_processes _).balanced ?_
      exact (referencesOf_insert_assign_shared s.tables.processes pid inRange id).symm

theorem Opening.orderly {path : String} {flags : OpenFlags} {permission : UInt32}
    {result : EStateM.Result Stop (Service σ κ) Descriptor}
    (opening : Opening s pid path flags permission result) (balanced : s.tables.Balanced) :
    Orderly tooMuch result := by
  cases opening with
  | direction none => exact .refused _ balanced
  | unknown asked missing => exact .refused _ balanced
  | storage asked found answer => exact .refused _ balanced
  | systemFull asked found answer full => exact .refused _ balanced
  | unbound asked found answer room unbindable released => exact .refused _ balanced
  | @opened rights table object store fd id after journal asked found answer room free granted
      entering =>
      refine .answered _ ?_
      refine (entering.accounts.of_processes _).balanced ?_
      obtain ⟨inRange, empty⟩ := DescriptorTable.freeDescriptor_ok free
      exact (referencesOf_insert_assign_some found inRange empty id).symm

theorem Removing.orderly {path : String} {result : EStateM.Result Stop (Service σ κ) Unit}
    (removing : Removing s path result) (balanced : s.tables.Balanced) :
    Orderly tooMuch result := by
  cases removing with
  | removed answer => exact .answered _ balanced
  | refused answer => exact .refused _ balanced

theorem Seeking.orderly {distance : Int} {whence : Nat}
    {result : EStateM.Result Stop (Service σ κ) Nat}
    (seeking : Seeking s pid fd distance whence result) (balanced : s.tables.Balanced) :
    Orderly tooMuch result := by
  cases seeking with
  | unresolved why => exact .refused _ balanced
  | stream slot => exact .refused _ balanced
  | unseekable slot shown positionless => exact .refused _ balanced
  | baseless slot shown seekable unknown => exact .refused _ balanced
  | outside slot shown seekable asked outside => exact .refused _ balanced
  | moved slot shown seekable asked exact inside repositioning =>
      exact .answered _ repositioning.balanced

/-- The transfer that a request asks for is too much for the cursor: the storage moves the
bytes, and the place behind the last of them is no word. -/
inductive TooMuch (s : Service σ κ) : Request → Prop
  | read {pid : Pid} {fd : Descriptor} {length : Nat} {id : GroupId} {file : OpenFile}
      {data : Bytes} (slot : s.tables.slot? ⟨pid, fd⟩ = some (.shared id))
      (shown : s.tables.file? id = some file) (readable : file.rights.read = true)
      (positive : length ≠ 0)
      (answer : Storage.readAt file.object file.cursor length s.storage = .ok data)
      (outside : ¬ file.cursor + data.length < wordLimit) : TooMuch s (.read pid fd length)
  | write {pid : Pid} {fd : Descriptor} {data : Bytes} {id : GroupId} {file : OpenFile}
      {count : Nat} {store : σ} (slot : s.tables.slot? ⟨pid, fd⟩ = some (.shared id))
      (shown : s.tables.file? id = some file) (writable : file.rights.write = true)
      (positive : data ≠ [])
      (answer : Storage.writeAt file.object (file.start s.storage) data s.storage =
        (.ok count, store))
      (outside : ¬ file.start s.storage + count < wordLimit) : TooMuch s (.write pid fd data)

variable [ByteDevice κ]

theorem Reading.orderly {length : Nat} {result : EStateM.Result Stop (Service σ κ) Bytes}
    (reading : Reading s pid fd length result) (balanced : s.tables.Balanced) :
    Orderly (s.TooMuch (.read pid fd length)) result := by
  cases reading with
  | unresolved why => exact .refused _ balanced
  | forbidden given lacking => exact .refused _ balanced
  | consoleRefused slot readable answer => exact .refused _ balanced
  | console slot readable answer => exact .answered _ balanced
  | nothing slot shown readable zero => exact .answered _ balanced
  | refused slot shown readable positive answer => exact .refused _ balanced
  | overflow slot shown readable positive answer outside =>
      exact .overflow (.read slot shown readable positive answer outside) balanced
  | moved slot shown readable positive answer inside repositioning =>
      exact .answered _ repositioning.balanced

theorem Writing.orderly {data : Bytes} {result : EStateM.Result Stop (Service σ κ) Nat}
    (writing : Writing s pid fd data result) (balanced : s.tables.Balanced) :
    Orderly (s.TooMuch (.write pid fd data)) result := by
  cases writing with
  | unresolved why => exact .refused _ balanced
  | forbidden given lacking => exact .refused _ balanced
  | consoleRefused slot writable answer => exact .refused _ balanced
  | console slot writable answer => exact .answered _ balanced
  | nothing slot shown writable zero => exact .answered _ balanced
  | refused slot shown writable positive answer => exact .refused _ balanced
  | overflow slot shown writable positive answer outside =>
      exact .overflow (.write slot shown writable positive answer outside) balanced
  | moved slot shown writable positive answer inside repositioning =>
      exact .answered _ repositioning.balanced

theorem outcome_close {later : Service σ κ} (run : (close pid fd).run s = .ok () later) :
    (perform (.close pid fd)).outcome s = (.ok .done, later) := by
  rw [outcome_eq, perform, EStateM.run_bind, run]
  rfl

theorem outcome_endProcess {later : Service σ κ} (run : (endProcess pid).run s = .ok () later) :
    (perform (.endProcess pid)).outcome s = (.ok .done, later) := by
  rw [outcome_eq, perform, EStateM.run_bind, run]
  rfl

theorem tell_of_file? {id : GroupId} {file : OpenFile} (balanced : s.tables.Balanced)
    (slot : s.tables.slot? ⟨pid, fd⟩ = some (.shared id)) (shown : s.tables.file? id = some file) :
    ((perform (.tell pid fd)).outcome s).1 = .ok (.number file.cursor) := by
  have run : (perform (.tell pid fd)).run s =
      (tell pid fd >>= fun cursor => pure (.number cursor)).run s := rfl
  have outcome : Telling s pid fd _ := telling balanced
  rw [outcome_eq, run, EStateM.run_bind]
  generalize (tell pid fd).run s = result at outcome
  cases outcome with
  | unresolved why => cases why.slot?.symm.trans slot
  | stream slot' => cases slot'.symm.trans slot
  | told slot' shown' =>
      cases slot'.symm.trans slot
      cases shown'.symm.trans shown
      rfl

/-- Every request is answered or refused in good order. -/
theorem perform_orderly (balanced : s.tables.Balanced) (request : Request) :
    Orderly (s.TooMuch request) ((perform request).run s) := by
  cases request with
  | createProcess pid => exact ((creating s pid).orderly balanced).map fun _ => Reply.done
  | spawn =>
      refine Orderly.map ?_ Reply.process
      have counted : (s.withCounter s.freshPid.next).tables.Balanced := balanced
      rw [run_spawn]
      exact ((creating _ s.freshPid).orderly counted).map fun _ => s.freshPid
  | fork parent =>
      refine Orderly.map ?_ Reply.process
      rw [run_fork]
      split
      · have counted : (s.withCounter s.freshPid.next).tables.Balanced := balanced
        exact ((forking counted).orderly counted).map fun _ => s.freshPid
      · exact .refused _ balanced
  | forkProcess parent child => exact ((forking balanced).orderly balanced).map fun _ => Reply.done
  | endProcess pid => exact ((ending balanced).orderly balanced).map fun _ => Reply.done
  | openPath pid path flags permission =>
      exact ((opening balanced).orderly balanced).map Reply.descriptor
  | close pid fd => exact ((closing balanced).orderly balanced).map fun _ => Reply.done
  | duplicate pid old new => exact ((duplicating balanced).orderly balanced).map Reply.descriptor
  | requireRights pid fd asked =>
      exact ((checking balanced asked).orderly balanced).map fun _ => Reply.done
  | read pid fd length => exact ((reading balanced length).orderly balanced).map Reply.data
  | write pid fd data => exact ((writing balanced data).orderly balanced).map Reply.number
  | seek pid fd distance whence =>
      exact ((seeking balanced distance whence).orderly balanced).map Reply.number
  | tell pid fd => exact ((telling balanced).orderly balanced).map Reply.number
  | members pid fd => exact ((listing balanced).orderly balanced).map Reply.handles
  | workingDirectory =>
      refine Orderly.map ?_ Reply.text
      cases answer : Storage.workingDirectory s.storage with
      | ok path =>
          simp only [workingDirectory, EStateM.run_bind, EStateM.run_get, answer]
          exact .answered path balanced
      | error reason =>
          simp only [workingDirectory, EStateM.run_bind, EStateM.run_get, answer]
          exact .refused reason balanced
  | remove path => exact ((removing s path).orderly balanced).map fun _ => Reply.done

/-- The state that a request leads to is the one its run leaves behind. -/
theorem next_eq (s : Service σ κ) (request : Request) :
    s.next request = stateOf ((perform request).run s) := by
  rw [next, outcome_eq]
  cases (perform request).run s <;> rfl

theorem balanced_next (balanced : s.tables.Balanced) (request : Request) :
    (s.next request).tables.Balanced := by
  rw [next_eq]
  exact (perform_orderly balanced request).balanced

/-- The one fault that a request can run into, and the requests that can. -/
theorem wordOverflow_of_fault (balanced : s.tables.Balanced) {request : Request} {fault : Fault}
    (faulted : ((perform request).outcome s).1 = .error (.faulted fault)) :
    fault = .wordOverflow ∧ s.TooMuch request := by
  have orderly := perform_orderly balanced request
  rw [outcome_eq] at faulted
  generalize (perform request).run s = result at orderly faulted
  cases orderly with
  | answered value balanced => cases faulted
  | refused reason balanced => cases faulted
  | overflow asked balanced =>
      cases faulted
      exact ⟨rfl, asked⟩

theorem fault_eq_wordOverflow (balanced : s.tables.Balanced) {request : Request} {fault : Fault}
    (faulted : ((perform request).outcome s).1 = .error (.faulted fault)) :
    fault = .wordOverflow := (wordOverflow_of_fault balanced faulted).1

/-- The states of a service that was built at some time. Between its requests the
storage may change as `outside` allows; the console, and what memory grants, may change
at will. -/
inductive Reachable (outside : σ → σ → Prop) : Service σ κ → Prop
  | built {capacities : Capacities} {storage : σ} {console : κ} {allotment : Allotment}
      {s : Service σ κ} (built : build capacities storage console allotment = .ok s) :
      Reachable outside s
  | next {s : Service σ κ} (reached : Reachable outside s) (request : Request) :
      Reachable outside (s.next request)
  | storage {s : Service σ κ} {store : σ} (reached : Reachable outside s)
      (change : outside s.storage store) : Reachable outside (s.withStorage store)
  | console {s : Service σ κ} (reached : Reachable outside s) (console : κ) :
      Reachable outside (s.withConsole console)
  | memory {s : Service σ κ} (reached : Reachable outside s) (allotment : Allotment) :
      Reachable outside (s.withAllotment allotment)

theorem Reachable.after {outside : σ → σ → Prop} (reached : Reachable outside s)
    (history : List Request) : Reachable outside (s.after history) := by
  induction history generalizing s with
  | nil => exact reached
  | cons request rest ih => exact ih (reached.next request)

/-- The accounts are right at all times. -/
theorem Reachable.balanced {outside : σ → σ → Prop} (reached : Reachable outside s) :
    s.tables.Balanced := by
  induction reached with
  | built built => exact balanced_of_build built
  | next reached request ih => exact balanced_next ih request
  | storage reached change ih => exact ih
  | console reached console ih => exact ih
  | memory reached allotment ih => exact ih

end Service

end OpenFiles
