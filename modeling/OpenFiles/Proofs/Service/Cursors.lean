import OpenFiles.Proofs.Service.Effects

/-!
# Where the cursors of the groups are

A group that is live after a request was live before it, with the same object and the same
rights, or an open has just founded it. Its cursor is where it was, unless the request was
a transfer or a seek through one of its members and was granted; then the answer says how
far the cursor has gone. `shows_next` says so of every request, and what holds of groups or
of cursors at all times is derived from it.
-/

namespace OpenFiles

namespace Tables

variable {tables middle after : Tables} {refs rest leaving : List Reference}
variable {id : GroupId} {file : OpenFile}

/-- No group is new, and those that are left show what they showed. -/
def Shrinks (tables after : Tables) : Prop :=
  ∀ id file, after.file? id = some file → tables.file? id = some file

theorem Shrinks.refl (tables : Tables) : tables.Shrinks tables := fun _ _ shown => shown

theorem Shrinks.trans (first : tables.Shrinks middle) (second : middle.Shrinks after) :
    tables.Shrinks after :=
  fun id file shown => first id file (second id file shown)

theorem Departures.shrinks {gone : List Object}
    (departures : Departures tables leaving rest gone after) : tables.Shrinks after := by
  intro id file shown
  obtain ⟨handle, remains⟩ := departures.accounts.exists_reference_of_file? shown
  rw [← departures.files (handle, id) remains]
  exact shown

/-- The cursor of one group moves, and nothing else happens to what groups show. -/
theorem Repositioning.file?_cases {other : GroupId} {cursor : Nat}
    (repositioning : Repositioning tables id cursor refs after)
    (shown : after.file? other = some file) :
    tables.file? other = some file ∨
      id = other ∧ ∃ before, tables.file? id = some before ∧
        file = { before with cursor := cursor } := by
  rw [repositioning.files] at shown
  split at shown
  · rename_i here
    subst here
    obtain ⟨before, there, rfl⟩ := Option.map_eq_some_iff.mp shown
    exact .inr ⟨rfl, before, there, rfl⟩
  · exact .inl shown

end Tables

namespace Service

variable {σ κ α β : Type} {s : Service σ κ}
variable {pid parent child : Pid} {fd old new : Descriptor}

open OpenFiles.Action

section Operations

/-- An operation founds no group and changes what none shows. -/
def Shrinking (s : Service σ κ) (result : EStateM.Result Stop (Service σ κ) α) : Prop :=
  s.tables.Shrinks (stateOf result).tables

theorem Shrinking.map {action : Action (Service σ κ) α} (shrinking : Shrinking s (action.run s))
    (f : α → β) : Shrinking s ((action >>= fun value => pure (f value)).run s) := by
  rw [EStateM.run_bind]
  generalize action.run s = result at shrinking
  cases result <;> exact shrinking

theorem Creating.shrinking {result : EStateM.Result Stop (Service σ κ) Unit}
    (creating : Creating s pid result) : Shrinking s result := by
  cases creating <;> exact .refl s.tables

theorem Forking.shrinking {result : EStateM.Result Stop (Service σ κ) Unit}
    (forking : Forking s parent child result) : Shrinking s result := by
  cases forking with
  | @forked table after journal found fresh arrivals =>
      exact fun id file shown => (arrivals.files id).symm.trans shown
  | _ => exact .refl s.tables

theorem Checking.shrinking {asked : Rights} {result : EStateM.Result Stop (Service σ κ) Unit}
    (checking : Checking s pid fd asked result) : Shrinking s result := by
  cases checking <;> exact .refl s.tables

theorem Telling.shrinking {result : EStateM.Result Stop (Service σ κ) Nat}
    (telling : Telling s pid fd result) : Shrinking s result := by
  cases telling <;> exact .refl s.tables

theorem Listing.shrinking {result : EStateM.Result Stop (Service σ κ) (List Handle)}
    (listing : Listing s pid fd result) : Shrinking s result := by
  cases listing <;> exact .refl s.tables

variable [Storage σ]

theorem Closing.shrinking {result : EStateM.Result Stop (Service σ κ) Unit}
    (closing : Closing s pid fd result) : Shrinking s result := by
  cases closing with
  | closed found populated departures => exact departures.shrinks
  | _ => exact .refl s.tables

theorem Ending.shrinking {result : EStateM.Result Stop (Service σ κ) Unit}
    (ending : Ending s pid result) : Shrinking s result := by
  cases ending with
  | unknown missing => exact .refl s.tables
  | ended found departures => exact departures.shrinks

theorem Duplicating.shrinking {result : EStateM.Result Stop (Service σ κ) Descriptor}
    (duplicating : Duplicating s pid old new result) : Shrinking s result := by
  cases duplicating with
  | stream found slot apart inRange departures => exact departures.shrinks
  | @shared table id gone middle after journal found slot apart inRange departures joining =>
      refine departures.shrinks.trans fun id file shown => ?_
      exact (joining.files id).symm.trans shown
  | _ => exact .refl s.tables

theorem Removing.shrinking {path : String} {result : EStateM.Result Stop (Service σ κ) Unit}
    (removing : Removing s path result) : Shrinking s result := by
  cases removing <;> exact .refl s.tables

end Operations

variable [Storage σ] [ByteDevice κ] {request : Request} {id : GroupId} {file : OpenFile}

/-- What a group may show after a request. -/
inductive Shows (s : Service σ κ) : Request → GroupId → OpenFile → Prop
  | kept {request : Request} {id : GroupId} {file : OpenFile}
      (shown : s.tables.file? id = some file) : Shows s request id file
  | read {pid : Pid} {fd : Descriptor} {length : Nat} {id : GroupId} {file : OpenFile}
      {data : Bytes} (slot : s.tables.slot? ⟨pid, fd⟩ = some (.shared id))
      (shown : s.tables.file? id = some file)
      (granted : Storage.readAt file.object file.cursor length s.storage = .ok data)
      (answer : ((perform (.read pid fd length)).outcome s).1 = .ok (.data data))
      (inside : file.cursor + data.length < wordLimit) :
      Shows s (.read pid fd length) id { file with cursor := file.cursor + data.length }
  | wrote {pid : Pid} {fd : Descriptor} {data : Bytes} {id : GroupId} {file : OpenFile}
      {count : Nat} {store : σ} (slot : s.tables.slot? ⟨pid, fd⟩ = some (.shared id))
      (shown : s.tables.file? id = some file) (positive : data ≠ [])
      (granted : Storage.writeAt file.object (file.start s.storage) data s.storage =
        (.ok count, store))
      (answer : ((perform (.write pid fd data)).outcome s).1 = .ok (.number count))
      (inside : file.start s.storage + count < wordLimit) :
      Shows s (.write pid fd data) id { file with cursor := file.start s.storage + count }
  | sought {pid : Pid} {fd : Descriptor} {distance : Int} {whence : Nat} {id : GroupId}
      {file : OpenFile} {target : Nat} (slot : s.tables.slot? ⟨pid, fd⟩ = some (.shared id))
      (shown : s.tables.file? id = some file) (seekable : file.object.kind.isSeekable = true)
      (answer : ((perform (.seek pid fd distance whence)).outcome s).1 = .ok (.number target))
      (inside : target < wordLimit) :
      Shows s (.seek pid fd distance whence) id { file with cursor := target }
  | founded {pid : Pid} {path : String} {flags : OpenFlags} {permission : UInt32}
      {fd : Descriptor} {id : GroupId} {rights : Rights} {object held : Object} {store : σ}
      (asked : Rights.ofOpenFlags flags = .ok rights)
      (granted : Storage.openPath path flags permission s.storage = (.ok object, store))
      (answer : ((perform (.openPath pid path flags permission)).outcome s).1 =
        .ok (.descriptor fd))
      (slot : (s.next (.openPath pid path flags permission)).tables.slot? ⟨pid, fd⟩ =
        some (.shared id))
      (unused : s.tables.file? id = none) :
      Shows s (.openPath pid path flags permission) id
        ⟨held, if rights.append then Storage.sizeOf object store else 0, rights⟩

theorem Shrinking.shows (shrinking : Shrinking s ((perform request).run s))
    (shown : (s.next request).tables.file? id = some file) : Shows s request id file := by
  rw [next_eq] at shown
  exact .kept (shrinking id file shown)

theorem shows_read (balanced : s.tables.Balanced) {length : Nat}
    (shown : (s.next (.read pid fd length)).tables.file? id = some file) :
    Shows s (.read pid fd length) id file := by
  have run : (perform (.read pid fd length)).run s =
      (read pid fd length >>= fun data => pure (.data data)).run s := rfl
  have whole : ((perform (.read pid fd length)).outcome s).1 = _ :=
    congrArg Prod.fst (outcome_eq _ s)
  have outcome : Reading s pid fd length _ := reading balanced length
  rw [run, EStateM.run_bind] at whole
  rw [next_eq, run, EStateM.run_bind] at shown
  generalize (read pid fd length).run s = result at outcome whole shown
  cases outcome with
  | moved slot before readable positive answer inside repositioning =>
      rcases repositioning.file?_cases shown with same | ⟨rfl, before', there, rfl⟩
      · exact .kept same
      · rw [before, Option.some.injEq] at there
        subst there
        exact .read slot before answer whole inside
  | _ => exact .kept shown

theorem shows_write (balanced : s.tables.Balanced) {data : Bytes}
    (shown : (s.next (.write pid fd data)).tables.file? id = some file) :
    Shows s (.write pid fd data) id file := by
  have run : (perform (.write pid fd data)).run s =
      (write pid fd data >>= fun count => pure (.number count)).run s := rfl
  have whole : ((perform (.write pid fd data)).outcome s).1 = _ :=
    congrArg Prod.fst (outcome_eq _ s)
  have outcome : Writing s pid fd data _ := writing balanced data
  rw [run, EStateM.run_bind] at whole
  rw [next_eq, run, EStateM.run_bind] at shown
  generalize (write pid fd data).run s = result at outcome whole shown
  cases outcome with
  | moved slot before writable positive answer inside repositioning =>
      rcases repositioning.file?_cases shown with same | ⟨rfl, before', there, rfl⟩
      · exact .kept same
      · rw [before, Option.some.injEq] at there
        subst there
        exact .wrote slot before positive answer whole inside
  | _ => exact .kept shown

theorem shows_seek (balanced : s.tables.Balanced) {distance : Int} {whence : Nat}
    (shown : (s.next (.seek pid fd distance whence)).tables.file? id = some file) :
    Shows s (.seek pid fd distance whence) id file := by
  have run : (perform (.seek pid fd distance whence)).run s =
      (seek pid fd distance whence >>= fun target => pure (.number target)).run s := rfl
  have whole : ((perform (.seek pid fd distance whence)).outcome s).1 = _ :=
    congrArg Prod.fst (outcome_eq _ s)
  have outcome : Seeking s pid fd distance whence _ := seeking balanced distance whence
  rw [run, EStateM.run_bind] at whole
  rw [next_eq, run, EStateM.run_bind] at shown
  generalize (seek pid fd distance whence).run s = result at outcome whole shown
  cases outcome with
  | moved slot before seekable asked exact inside repositioning =>
      rcases repositioning.file?_cases shown with same | ⟨rfl, before', there, rfl⟩
      · exact .kept same
      · rw [before, Option.some.injEq] at there
        subst there
        exact .sought slot before seekable whole inside
  | _ => exact .kept shown

theorem shows_openPath (balanced : s.tables.Balanced) {path : String} {flags : OpenFlags}
    {permission : UInt32}
    (shown : (s.next (.openPath pid path flags permission)).tables.file? id = some file) :
    Shows s (.openPath pid path flags permission) id file := by
  have run : (perform (.openPath pid path flags permission)).run s =
      (openPath pid path flags permission >>= fun fd => pure (.descriptor fd)).run s := rfl
  have state := next_eq s (.openPath pid path flags permission)
  have whole : ((perform (.openPath pid path flags permission)).outcome s).1 = _ :=
    congrArg Prod.fst (outcome_eq _ s)
  have outcome : Opening s pid path flags permission _ := opening balanced
  rw [run, EStateM.run_bind] at state whole
  rw [state] at shown
  generalize (openPath pid path flags permission).run s = result at outcome state whole shown
  cases outcome with
  | @opened rights table object store fd new after journal asked found answer room free granted
      entering =>
      by_cases here : new = id
      · subst here
        obtain ⟨held, there, _⟩ := entering.shown
        have same := Option.some.inj (shown.symm.trans there)
        subst same
        refine .founded asked answer whole ?_ ?_
        · rw [state]
          obtain ⟨inRange, _⟩ := DescriptorTable.freeDescriptor_ok free
          have table' : (s.tables.processes.insert pid
              (table.assign fd (some (.shared new)))).get? pid = _ :=
            OrderedMap.get?_insert_self _ _ _
          change ((s.tables.processes.insert pid
            (table.assign fd (some (.shared new)))).get? pid).bind _ = _
          rw [table']
          exact DescriptorTable.slot?_assign_self inRange _
        · cases live : s.tables.file? new with
          | none => rfl
          | some before =>
              obtain ⟨handle, member⟩ := Tables.Accounts.exists_reference_of_file? balanced live
              exact absurd rfl (entering.unused _ member)
      · obtain ⟨handle, member⟩ := entering.accounts.exists_reference_of_file? shown
        rcases List.mem_cons.mp member with new | old
        · exact absurd (congrArg Prod.snd new).symm here
        · refine .kept ?_
          rw [← entering.files _ old]
          exact shown
  | _ => exact .kept shown

/-- What any group shows after any request. -/
theorem shows_next (balanced : s.tables.Balanced)
    (shown : (s.next request).tables.file? id = some file) : Shows s request id file := by
  cases request with
  | createProcess pid =>
      exact Shrinking.shows ((creating s pid).shrinking.map fun _ => Reply.done) shown
  | spawn =>
      refine Shrinking.shows (Shrinking.map ?_ Reply.process) shown
      rw [run_spawn]
      exact (creating (s.withCounter s.freshPid.next) s.freshPid).shrinking.map fun _ => s.freshPid
  | fork parent =>
      refine Shrinking.shows (Shrinking.map ?_ Reply.process) shown
      rw [run_fork]
      split
      · have counted : (s.withCounter s.freshPid.next).tables.Balanced := balanced
        exact (forking counted).shrinking.map fun _ => s.freshPid
      · exact .refl s.tables
  | forkProcess parent child =>
      exact Shrinking.shows ((forking balanced).shrinking.map fun _ => Reply.done) shown
  | endProcess pid =>
      exact Shrinking.shows ((ending balanced).shrinking.map fun _ => Reply.done) shown
  | openPath pid path flags permission => exact shows_openPath balanced shown
  | close pid fd =>
      exact Shrinking.shows ((closing balanced).shrinking.map fun _ => Reply.done) shown
  | duplicate pid old new =>
      exact Shrinking.shows ((duplicating balanced).shrinking.map Reply.descriptor) shown
  | requireRights pid fd asked =>
      exact Shrinking.shows ((checking balanced asked).shrinking.map fun _ => Reply.done) shown
  | read pid fd length => exact shows_read balanced shown
  | write pid fd data => exact shows_write balanced shown
  | seek pid fd distance whence => exact shows_seek balanced shown
  | tell pid fd => exact Shrinking.shows ((telling balanced).shrinking.map Reply.number) shown
  | members pid fd => exact Shrinking.shows ((listing balanced).shrinking.map Reply.handles) shown
  | workingDirectory =>
      refine Shrinking.shows (Shrinking.map ?_ Reply.text) shown
      simp only [workingDirectory, EStateM.run_bind, EStateM.run_get]
      cases Storage.workingDirectory s.storage <;> exact .refl s.tables
  | remove path => exact Shrinking.shows ((removing s path).shrinking.map fun _ => Reply.done) shown

end Service

end OpenFiles
