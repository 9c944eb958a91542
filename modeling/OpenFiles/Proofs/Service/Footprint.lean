import OpenFiles.Proofs.Service.Effects

/-!
# Which requests reach the storage, and how

`Effect` says what a request does to the storage without saying which request it was.
`Leaves` starts from the request. Only three kinds of request ask something of the
storage: an open, a write through a descriptor that may write, and a removal. All
others at most release objects, and none but an open does both.
-/

namespace OpenFiles

namespace Service

variable {σ κ α β : Type} [Storage σ] {s : Service σ κ}
variable {pid parent child : Pid} {fd old new : Descriptor}

open OpenFiles.Action

section Releasing

/-- The storage is left alone, but for objects that are released. -/
def Quiet (s : Service σ κ) (result : EStateM.Result Stop (Service σ κ) α) : Prop :=
  ∃ gone, (stateOf result).storage = releaseAll gone s.storage

theorem Quiet.map {action : Action (Service σ κ) α} (quiet : Quiet s (action.run s)) (f : α → β) :
    Quiet s ((action >>= fun value => pure (f value)).run s) := by
  rw [EStateM.run_bind]
  generalize action.run s = result at quiet
  cases result <;> exact quiet

theorem Creating.quiet {result : EStateM.Result Stop (Service σ κ) Unit}
    (creating : Creating s pid result) : Quiet s result := by
  cases creating <;> exact ⟨[], rfl⟩

theorem Forking.quiet {result : EStateM.Result Stop (Service σ κ) Unit}
    (forking : Forking s parent child result) : Quiet s result := by
  cases forking <;> exact ⟨[], rfl⟩

theorem Closing.quiet {result : EStateM.Result Stop (Service σ κ) Unit}
    (closing : Closing s pid fd result) : Quiet s result := by
  cases closing with
  | @closed table slot gone after journal found populated departures => exact ⟨gone, rfl⟩
  | _ => exact ⟨[], rfl⟩

theorem Ending.quiet {result : EStateM.Result Stop (Service σ κ) Unit}
    (ending : Ending s pid result) : Quiet s result := by
  cases ending with
  | unknown missing => exact ⟨[], rfl⟩
  | @ended table gone after journal found departures => exact ⟨gone, rfl⟩

theorem Duplicating.quiet {result : EStateM.Result Stop (Service σ κ) Descriptor}
    (duplicating : Duplicating s pid old new result) : Quiet s result := by
  cases duplicating with
  | @stream table stream gone middle journal found slot apart inRange departures =>
      exact ⟨gone, rfl⟩
  | @shared table id gone middle after journal found slot apart inRange departures joining =>
      exact ⟨gone, rfl⟩
  | _ => exact ⟨[], rfl⟩

theorem Checking.quiet {asked : Rights} {result : EStateM.Result Stop (Service σ κ) Unit}
    (checking : Checking s pid fd asked result) : Quiet s result := by
  cases checking <;> exact ⟨[], rfl⟩

theorem Telling.quiet {result : EStateM.Result Stop (Service σ κ) Nat}
    (telling : Telling s pid fd result) : Quiet s result := by
  cases telling <;> exact ⟨[], rfl⟩

theorem Listing.quiet {result : EStateM.Result Stop (Service σ κ) (List Handle)}
    (listing : Listing s pid fd result) : Quiet s result := by
  cases listing <;> exact ⟨[], rfl⟩

theorem Seeking.quiet {distance : Int} {whence : Nat}
    {result : EStateM.Result Stop (Service σ κ) Nat}
    (seeking : Seeking s pid fd distance whence result) : Quiet s result := by
  cases seeking <;> exact ⟨[], rfl⟩

theorem Reading.quiet [ByteDevice κ] {length : Nat}
    {result : EStateM.Result Stop (Service σ κ) Bytes}
    (reading : Reading s pid fd length result) : Quiet s result := by
  cases reading <;> exact ⟨[], rfl⟩

end Releasing

variable [ByteDevice κ]

/-- How a request can leave the storage. -/
inductive Leaves (s : Service σ κ) : Request → σ → Prop
  | released {request : Request} (gone : List Object) :
      Leaves s request (releaseAll gone s.storage)
  | notOpened {pid : Pid} {path : String} {flags : OpenFlags} {permission : UInt32}
      {reason : Error} {store : σ}
      (answer : Storage.openPath path flags permission s.storage = (.error reason, store)) :
      Leaves s (.openPath pid path flags permission) store
  | opened {pid : Pid} {path : String} {flags : OpenFlags} {permission : UInt32} {object : Object}
      {store : σ} (answer : Storage.openPath path flags permission s.storage = (.ok object, store))
      (gone : List Object) : Leaves s (.openPath pid path flags permission) (releaseAll gone store)
  | written {pid : Pid} {fd : Descriptor} {data : Bytes} {id : GroupId} {file : OpenFile}
      {verdict : Except Error Nat} {store : σ} (slot : s.tables.slot? ⟨pid, fd⟩ = some (.shared id))
      (shown : s.tables.file? id = some file) (writable : file.rights.write = true)
      (positive : data ≠ [])
      (answer : Storage.writeAt file.object (file.start s.storage) data s.storage =
        (verdict, store))
      (told : ∀ count, verdict = .ok count → file.start s.storage + count < wordLimit →
        ((perform (.write pid fd data)).outcome s).1 = .ok (.number count)) :
      Leaves s (.write pid fd data) store
  | removed {path : String} {verdict : Except Error Unit} {store : σ}
      (answer : Storage.removePath path s.storage = (verdict, store)) :
      Leaves s (.remove path) store

theorem Quiet.leaves {request : Request} (quiet : Quiet s ((perform request).run s)) :
    Leaves s request (s.next request).storage := by
  obtain ⟨gone, storage⟩ := quiet
  rw [next_eq, storage]
  exact .released gone

theorem leaves_openPath (balanced : s.tables.Balanced) (pid : Pid) (path : String)
    (flags : OpenFlags) (permission : UInt32) :
    Leaves s (.openPath pid path flags permission)
      (s.next (.openPath pid path flags permission)).storage := by
  have run : (perform (.openPath pid path flags permission)).run s =
      (openPath pid path flags permission >>= fun fd => pure (.descriptor fd)).run s := rfl
  have outcome : Opening s pid path flags permission _ := opening balanced
  rw [next_eq, run, EStateM.run_bind]
  generalize (openPath pid path flags permission).run s = result at outcome
  cases outcome with
  | direction none => exact .released []
  | unknown asked missing => exact .released []
  | storage asked found answer => exact .notOpened answer
  | @systemFull rights table object store journal asked found answer full =>
      exact .opened answer [object]
  | @unbound rights table object reason store left journal asked found answer room unbindable
      released =>
      change Leaves s _ left
      rw [released]
      split
      · exact .opened answer []
      · exact .opened answer [object]
  | opened asked found answer room free granted entering => exact .opened answer []

theorem leaves_write (balanced : s.tables.Balanced) (pid : Pid) (fd : Descriptor) (data : Bytes) :
    Leaves s (.write pid fd data) (s.next (.write pid fd data)).storage := by
  have run : (perform (.write pid fd data)).run s =
      (write pid fd data >>= fun count => pure (.number count)).run s := rfl
  have whole : ((perform (.write pid fd data)).outcome s).1 = _ :=
    congrArg Prod.fst (outcome_eq _ s)
  have outcome : Writing s pid fd data _ := writing balanced data
  rw [run, EStateM.run_bind] at whole
  rw [next_eq, run, EStateM.run_bind]
  generalize (write pid fd data).run s = result at outcome whole
  cases outcome with
  | refused slot shown writable positive answer =>
      exact .written slot shown writable positive answer fun _ granted => by cases granted
  | overflow slot shown writable positive answer outside =>
      refine .written slot shown writable positive answer fun count granted inside => ?_
      cases granted
      exact absurd inside outside
  | moved slot shown writable positive answer inside repositioning =>
      refine .written slot shown writable positive answer fun count granted _ => ?_
      cases granted
      exact whole
  | _ => exact .released []

/-- What a request leaves of the storage, over every storage and from balanced
tables. -/
theorem leaves_next (balanced : s.tables.Balanced) (request : Request) :
    Leaves s request (s.next request).storage := by
  cases request with
  | createProcess pid => exact ((creating s pid).quiet.map fun _ => Reply.done).leaves
  | spawn =>
      refine Quiet.leaves (Quiet.map ?_ Reply.process)
      rw [run_spawn]
      exact (creating (s.withCounter s.freshPid.next) s.freshPid).quiet.map fun _ => s.freshPid
  | fork parent =>
      refine Quiet.leaves (Quiet.map ?_ Reply.process)
      rw [run_fork]
      split
      · have counted : (s.withCounter s.freshPid.next).tables.Balanced := balanced
        exact (forking counted).quiet.map fun _ => s.freshPid
      · exact ⟨[], rfl⟩
  | forkProcess parent child => exact ((forking balanced).quiet.map fun _ => Reply.done).leaves
  | endProcess pid => exact ((ending balanced).quiet.map fun _ => Reply.done).leaves
  | openPath pid path flags permission => exact leaves_openPath balanced pid path flags permission
  | close pid fd => exact ((closing balanced).quiet.map fun _ => Reply.done).leaves
  | duplicate pid old new => exact ((duplicating balanced).quiet.map Reply.descriptor).leaves
  | requireRights pid fd asked =>
      exact ((checking balanced asked).quiet.map fun _ => Reply.done).leaves
  | read pid fd length => exact ((reading balanced length).quiet.map Reply.data).leaves
  | write pid fd data => exact leaves_write balanced pid fd data
  | seek pid fd distance whence =>
      exact ((seeking balanced distance whence).quiet.map Reply.number).leaves
  | tell pid fd => exact ((telling balanced).quiet.map Reply.number).leaves
  | members pid fd => exact ((listing balanced).quiet.map Reply.handles).leaves
  | workingDirectory =>
      refine Quiet.leaves (Quiet.map ?_ Reply.text)
      simp only [workingDirectory, EStateM.run_bind, EStateM.run_get]
      cases Storage.workingDirectory s.storage <;> exact ⟨[], rfl⟩
  | remove path =>
      have run : (perform (.remove path)).run s =
          (remove path >>= fun _ => pure .done).run s := rfl
      have outcome := removing s path
      rw [next_eq, run, EStateM.run_bind]
      generalize (remove path).run s = result at outcome
      cases outcome with
      | removed answer => exact .removed answer
      | refused answer => exact .removed answer

end Service

end OpenFiles
