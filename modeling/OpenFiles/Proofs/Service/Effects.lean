import OpenFiles.Proofs.Service.Runs

/-!
# What a request does to the objects

Seen from the storage, a request does at most two things. It may put one question:
open, write or remove. And it may release objects. `Effect` says which: an object
is released once if its inode number was referred to before the request, or was
opened by it, and is not referred to afterwards. `effect_next` says it of every
request, over every storage.
-/

namespace OpenFiles

/-- What one question of a request makes of a storage, and the object that it
opens, if it opens one. -/
inductive Asked {σ : Type} [Storage σ] (store : σ) : Option Object → σ → Prop
  | nothing : Asked store none store
  | notOpened {path : String} {flags : OpenFlags} {permission : UInt32} {reason : Error} {after : σ}
      (answer : Storage.openPath path flags permission store = (.error reason, after)) :
      Asked store none after
  | opened {path : String} {flags : OpenFlags} {permission : UInt32} {object : Object} {after : σ}
      (answer : Storage.openPath path flags permission store = (.ok object, after)) :
      Asked store (some object) after
  | written {object : Object} {position : Nat} {data : Bytes} {verdict : Except Error Nat}
      {after : σ} (answer : Storage.writeAt object position data store = (verdict, after)) :
      Asked store none after
  | removed {path : String} {verdict : Except Error Unit} {after : σ}
      (answer : Storage.removePath path store = (verdict, after)) : Asked store none after

namespace Service

variable {σ κ α β : Type} {s after : Service σ κ}

open OpenFiles.Action

/-- Some descriptor refers to an object with the inode number. -/
def Refers (s : Service σ κ) (inode : Inode) : Prop := s.tables.Refers s.tables.references inode

instance (s : Service σ κ) (inode : Inode) : Decidable (s.Refers inode) :=
  inferInstanceAs (Decidable (s.tables.Refers s.tables.references inode))

def Holds (s : Service σ κ) (object : Object) : Prop := s.tables.Holds s.tables.references object

/-- What a group shows is held. -/
theorem holds_of_file? {id : GroupId} {file : OpenFile} (balanced : s.tables.Balanced)
    (shown : s.tables.file? id = some file) : s.Holds file.object := by
  obtain ⟨handle, member⟩ := Tables.Accounts.exists_reference_of_file? balanced shown
  exact ⟨(handle, id), member, file, shown, rfl⟩

theorem refers_iff_holds {inode : Inode} :
    s.Refers inode ↔ ∃ object, s.Holds object ∧ object.inode = inode :=
  Tables.refers_iff_holds

/-- An open adds one object to those that are held: the one that was opened or, if its
inode number was open, the one that was there. -/
theorem holds_opened {pid : Pid} {fd : Descriptor} {table : DescriptorTable} {object : Object}
    {cursor : Nat} {rights : Rights} {id : GroupId} {tables : Tables}
    (found : s.tables.processes.get? pid = some table)
    (free : table.freeDescriptor = .ok fd)
    (entering : Tables.Entering s.tables object cursor rights ⟨pid, fd⟩ s.tables.references id
      tables) :
    ∃ held, held.inode = object.inode ∧ (held = object ∨ s.Holds held) ∧
      ∀ other, tables.Holds (referencesOf (s.tables.processes.insert pid
        (table.assign fd (some (.shared id))))) other ↔ held = other ∨ s.Holds other := by
  obtain ⟨inRange, empty⟩ := DescriptorTable.freeDescriptor_ok free
  have added := referencesOf_insert_assign_some found inRange empty id
  obtain ⟨held, shown, inode, origin⟩ := entering.shown
  refine ⟨held, inode, origin.imp_left And.right, ?_⟩
  intro other
  rw [Tables.holds_perm added, Tables.holds_cons]
  change _ ∨ tables.Holds s.tables.references other ↔ _
  rw [Tables.holds_congr entering.files, shown]
  simp only [Option.some.injEq, exists_eq_left']
  exact Iff.rfl

variable [Storage σ]

/-- What a request leaves behind: no objects but those that were open before and the
one that it opened, and each object released that is not referred to any more. -/
structure Effect (s : Service σ κ) (opened : Option Object) (after : Service σ κ) : Prop where
  objects : ∀ object, after.Holds object → s.Holds object ∨ opened = some object
  storage : ∃ store gone, Asked s.storage opened store ∧ after.storage = releaseAll gone store ∧
    (∀ object ∈ gone, s.Holds object ∨ opened = some object) ∧
    ∀ inode, (gone.countP fun object => object.inode = inode) =
      if (s.Refers inode ∨ opened.map Object.inode = some inode) ∧ ¬ after.Refers inode
      then 1 else 0

/-- What is made of an answer does not matter. -/
theorem Effect.map {action : Action (Service σ κ) α} {opened : Option Object}
    (effect : Effect s opened (stateOf (action.run s))) (f : α → β) :
    Effect s opened (stateOf ((action >>= fun value => pure (f value)).run s)) := by
  rw [EStateM.run_bind]
  generalize action.run s = result at effect
  cases result <;> exact effect

/-- Neither does the counter of process identifiers. -/
theorem Effect.of_withCounter {opened : Option Object} {counter : Pid}
    (effect : Effect (s.withCounter counter) opened after) : Effect s opened after :=
  ⟨effect.objects, effect.storage⟩

/-- Nothing is released while the same objects are held. -/
theorem Effect.of_holds (same : ∀ object, after.Holds object ↔ s.Holds object)
    (asked : Asked s.storage none after.storage) : Effect s none after where
  objects object held := .inl ((same object).mp held)
  storage := by
    refine ⟨after.storage, [], asked, rfl, fun _ member => absurd member List.not_mem_nil, ?_⟩
    intro inode
    have refers : after.Refers inode ↔ s.Refers inode := by
      simp only [refers_iff_holds, same]
    simp [refers]

/-- Nothing is released while the tables are left alone. -/
theorem Effect.of_tables (same : after.tables = s.tables)
    (asked : Asked s.storage none after.storage) : Effect s none after := by
  refine Effect.of_holds ?_ asked
  intro object
  rw [Holds, same, Holds]

/-- Nothing is released while open files only move their cursors. -/
theorem Effect.of_repositioning {id : GroupId} {cursor : Nat}
    (repositioning : Tables.Repositioning s.tables id cursor s.tables.references after.tables)
    (asked : Asked s.storage none after.storage) : Effect s none after := by
  have references : after.tables.references = s.tables.references := by
    rw [Tables.references, repositioning.processes, Tables.references]
  have moved (id' : GroupId) (object : Object) :
      (∃ file, after.tables.file? id' = some file ∧ file.object = object) ↔
        ∃ file, s.tables.file? id' = some file ∧ file.object = object := by
    rw [repositioning.files]
    by_cases here : id = id'
    · subst here
      rw [if_pos rfl]
      simp only [Option.map_eq_some_iff]
      constructor
      · rintro ⟨_, ⟨file, shown, rfl⟩, same⟩
        exact ⟨file, shown, same⟩
      · rintro ⟨file, shown, same⟩
        exact ⟨_, ⟨file, shown, rfl⟩, same⟩
    · rw [if_neg here]
  refine Effect.of_holds ?_ asked
  intro object
  simp only [Holds, Tables.Holds, references, moved]

/-- Departures release what no one refers to any more. -/
theorem Effect.of_departures {tables middle : Tables} {leaving rest : List Reference}
    {gone : List Object} (departures : Tables.Departures tables leaving rest gone middle)
    (files : ∀ id, tables.file? id = s.tables.file? id)
    (before : s.tables.references.Perm (leaving ++ rest))
    (holds : ∀ object, after.Holds object ↔ middle.Holds rest object)
    (storage : after.storage = releaseAll gone s.storage) : Effect s none after := by
  have held (object : Object) :
      s.Holds object ↔ tables.Holds leaving object ∨ tables.Holds rest object := by
    rw [Holds, Tables.holds_perm before, ← Tables.holds_append]
    exact (Tables.holds_congr fun ref _ => files ref.2).symm
  have stayed (object : Object) : after.Holds object ↔ tables.Holds rest object :=
    (holds object).trans (Tables.holds_congr departures.files)
  refine ⟨fun object now => .inl ((held object).mpr (.inr ((stayed object).mp now))),
    s.storage, gone, .nothing, storage, ?_, ?_⟩
  · intro object member
    exact .inl ((held object).mpr (.inl (departures.held object member)))
  · intro inode
    have refersBefore : s.Refers inode ↔
        tables.Refers leaving inode ∨ tables.Refers rest inode := by
      simp only [refers_iff_holds, Tables.refers_iff_holds, held, or_and_right, exists_or]
    have refersAfter : after.Refers inode ↔ tables.Refers rest inode := by
      simp only [refers_iff_holds, Tables.refers_iff_holds, stayed]
    rw [departures.once]
    by_cases leaves : tables.Refers leaving inode <;>
      by_cases stays : tables.Refers rest inode <;> simp [refersBefore, refersAfter, leaves, stays]

variable {path : String} {flags : OpenFlags} {permission : UInt32} {object : Object} {store : σ}

/-- An object that no descriptor came to refer to is released at once. -/
theorem Effect.of_unreferred (unreferred : ¬ s.Refers object.inode) (same : after.tables = s.tables)
    (answer : Storage.openPath path flags permission s.storage = (.ok object, store))
    (released : after.storage = Storage.release object store) : Effect s (some object) after where
  objects held now := .inl (by rwa [Holds, same] at now)
  storage := by
    refine ⟨store, [object], .opened answer, released, ?_, ?_⟩
    · intro held member
      exact .inr (congrArg some (List.mem_singleton.mp member).symm)
    · intro inode
      have refers : after.Refers inode ↔ s.Refers inode := by
        rw [Refers, same, Refers]
      by_cases here : object.inode = inode
      · subst here
        simp [refers, unreferred]
      · by_cases before : s.Refers inode <;> simp [refers, before, here]

/-- An object that a descriptor refers to afterwards is not released. -/
theorem Effect.of_referred
    (objects : ∀ held, after.Holds held → s.Holds held ∨ some object = some held)
    (kept : ∀ inode, s.Refers inode → after.Refers inode) (referred : after.Refers object.inode)
    (answer : Storage.openPath path flags permission s.storage = (.ok object, store))
    (storage : after.storage = store) : Effect s (some object) after where
  objects := objects
  storage := by
    refine ⟨store, [], .opened answer, storage, fun _ member => absurd member List.not_mem_nil, ?_⟩
    intro inode
    have settled : ¬ ((s.Refers inode ∨ (some object).map Object.inode = some inode) ∧
        ¬ after.Refers inode) := by
      rintro ⟨before | here, unreferred⟩
      · exact unreferred (kept inode before)
      · exact unreferred (Option.some.inj here ▸ referred)
    rw [if_neg settled]
    rfl

section Operations

variable {pid parent child : Pid} {fd old new : Descriptor}

theorem Closing.effect {result : EStateM.Result Stop (Service σ κ) Unit}
    (closing : Closing s pid fd result) : Effect s none (stateOf result) := by
  cases closing with
  | unknown missing => exact .of_tables rfl .nothing
  | empty found vacant => exact .of_tables rfl .nothing
  | @closed table slot gone after journal found populated departures =>
      have inRange := DescriptorTable.inRange_of_slot? populated
      refine .of_departures departures (fun _ => rfl)
        (referencesOf_perm_insert_assign_none found inRange) ?_ rfl
      intro object
      change after.Holds (referencesOf after.processes) object ↔ _
      rw [departures.processes]
      exact Iff.rfl

theorem Ending.effect {result : EStateM.Result Stop (Service σ κ) Unit}
    (ending : Ending s pid result) : Effect s none (stateOf result) := by
  cases ending with
  | unknown missing => exact .of_tables rfl .nothing
  | @ended table gone after journal found departures =>
      refine .of_departures departures (fun _ => rfl) (referencesOf_perm_erase found)
        ?_ rfl
      intro object
      change after.Holds (referencesOf after.processes) object ↔ _
      rw [departures.processes]
      exact Iff.rfl

theorem Telling.effect {result : EStateM.Result Stop (Service σ κ) Nat}
    (telling : Telling s pid fd result) : Effect s none (stateOf result) := by
  cases telling <;> exact .of_tables rfl .nothing

theorem Checking.effect {asked : Rights} {result : EStateM.Result Stop (Service σ κ) Unit}
    (checking : Checking s pid fd asked result) : Effect s none (stateOf result) := by
  cases checking <;> exact .of_tables rfl .nothing

theorem Listing.effect {result : EStateM.Result Stop (Service σ κ) (List Handle)}
    (listing : Listing s pid fd result) : Effect s none (stateOf result) := by
  cases listing <;> exact .of_tables rfl .nothing

theorem Creating.effect {result : EStateM.Result Stop (Service σ κ) Unit}
    (creating : Creating s pid result) : Effect s none (stateOf result) := by
  cases creating with
  | taken present => exact .of_tables rfl .nothing
  | huge large => exact .of_tables rfl .nothing
  | @created table journal fresh made =>
      refine .of_holds ?_ .nothing
      intro object
      exact Tables.holds_perm (referencesOf_insert_ofSize fresh made)

theorem Forking.effect {result : EStateM.Result Stop (Service σ κ) Unit}
    (forking : Forking s parent child result) : Effect s none (stateOf result) := by
  cases forking with
  | unknown missing => exact .of_tables rfl .nothing
  | taken found present => exact .of_tables rfl .nothing
  | @forked table after journal found fresh arrivals =>
      refine .of_holds ?_ .nothing
      intro object
      have inherited (held : s.tables.Holds (table.references child) object) : s.Holds object := by
        obtain ⟨⟨handle, id⟩, member, file, shown, same⟩ := held
        have slot := (DescriptorTable.mem_references_iff.mp member).2
        refine ⟨(⟨parent, handle.descriptor⟩, id), mem_referencesOf_iff.mpr ?_, file, shown, same⟩
        rw [found]
        exact slot
      change after.Holds (referencesOf (s.tables.processes.insert child table)) object ↔ _
      rw [Tables.holds_perm (referencesOf_insert_fresh fresh table),
        Tables.holds_congr fun ref _ => arrivals.files ref.2, Tables.holds_append]
      exact or_iff_right_of_imp inherited

theorem Duplicating.effect {result : EStateM.Result Stop (Service σ κ) Descriptor}
    (duplicating : Duplicating s pid old new result) : Effect s none (stateOf result) := by
  cases duplicating with
  | unknown missing => exact .of_tables rfl .nothing
  | invalid found invalid => exact .of_tables rfl .nothing
  | itself found populated same => exact .of_tables rfl .nothing
  | @stream table stream gone middle journal found slot apart inRange departures =>
      have added :=
        referencesOf_insert_assign_stream s.tables.processes pid inRange stream
      exact .of_departures departures (fun _ => rfl)
        (referencesOf_perm_insert_assign_none found inRange)
        (fun object => Tables.holds_perm added) rfl
  | @shared table id gone middle after journal found slot apart inRange departures joining =>
      have added := referencesOf_insert_assign_shared s.tables.processes pid inRange id
      refine .of_departures departures (fun _ => rfl)
        (referencesOf_perm_insert_assign_none found inRange) ?_ rfl
      intro object
      -- The new reference leads where the old descriptor leads, which is still there.
      have copied (held : ∃ file, middle.file? id = some file ∧ file.object = object) :
          middle.Holds (referencesOf (s.tables.processes.insert pid (table.assign new none)))
            object := by
        obtain ⟨file, shown, same⟩ := held
        exact ⟨(⟨pid, old⟩, id),
          mem_referencesOf_insert_assign_none inRange (Ne.symm apart) slot, file, shown, same⟩
      change after.Holds (referencesOf (s.tables.processes.insert pid _)) object ↔ _
      rw [Tables.holds_perm added, Tables.holds_congr fun ref _ => joining.files ref.2,
        Tables.holds_cons]
      exact or_iff_right_of_imp copied

theorem Removing.effect {path : String} {result : EStateM.Result Stop (Service σ κ) Unit}
    (removing : Removing s path result) : Effect s none (stateOf result) := by
  cases removing with
  | removed answer => exact .of_tables rfl (.removed answer)
  | refused answer => exact .of_tables rfl (.removed answer)

theorem Seeking.effect {distance : Int} {whence : Nat}
    {result : EStateM.Result Stop (Service σ κ) Nat}
    (seeking : Seeking s pid fd distance whence result) : Effect s none (stateOf result) := by
  cases seeking with
  | moved slot shown seekable asked exact inside repositioning =>
      exact .of_repositioning repositioning .nothing
  | _ => exact .of_tables rfl .nothing

/-- What the storage opens in a request, if the request gets that far. -/
def storageOpens (s : Service σ κ) : Request → Option Object
  | .openPath pid path flags permission =>
    match Rights.ofOpenFlags flags, s.tables.processes.get? pid,
        (Storage.openPath path flags permission s.storage).1 with
    | .ok _, some _, .ok object => some object
    | _, _, _ => none
  | _ => none

theorem Opening.effect {path : String} {flags : OpenFlags} {permission : UInt32}
    {result : EStateM.Result Stop (Service σ κ) Descriptor} (balanced : s.tables.Balanced)
    (opening : Opening s pid path flags permission result) :
    Effect s (s.storageOpens (.openPath pid path flags permission)) (stateOf result) := by
  cases opening with
  | direction none =>
      have opens : s.storageOpens (.openPath pid path flags permission) = Option.none := by
        simp only [storageOpens, none]
      rw [opens]
      exact .of_tables rfl .nothing
  | unknown asked missing =>
      have opens : s.storageOpens (.openPath pid path flags permission) = Option.none := by
        simp only [storageOpens, asked, missing]
      rw [opens]
      exact .of_tables rfl .nothing
  | storage asked found answer =>
      have opens : s.storageOpens (.openPath pid path flags permission) = Option.none := by
        simp only [storageOpens, asked, found, answer]
      rw [opens]
      exact .of_tables rfl (.notOpened answer)
  | @systemFull rights table object store journal asked found answer full =>
      have opens : s.storageOpens (.openPath pid path flags permission) = some object := by
        simp only [storageOpens, asked, found, answer]
      have unreferred := balanced.rowOf?_eq_none_iff.mp full.1
      rw [opens]
      exact .of_unreferred unreferred rfl answer rfl
  | @unbound rights table object reason store left journal asked found answer room unbindable
      released =>
      have opens : s.storageOpens (.openPath pid path flags permission) = some object := by
        simp only [storageOpens, asked, found, answer]
      rw [opens]
      by_cases held : s.Refers object.inode
      · exact .of_referred (fun _ now => .inl now) (fun _ before => before) held answer
          (released.trans (if_pos held))
      · exact .of_unreferred held rfl answer (released.trans (if_neg held))
  | @opened rights table object store fd id after journal asked found answer room free granted
      entering =>
      have opens : s.storageOpens (.openPath pid path flags permission) = some object := by
        simp only [storageOpens, asked, found, answer]
      obtain ⟨held, same, origin, holds⟩ := holds_opened found free entering
      rw [opens]
      refine .of_referred ?_ ?_ ?_ answer rfl
      · intro other now
        rcases (holds other).mp now with rfl | before
        · exact origin.symm.imp_right fun here => congrArg some here.symm
        · exact .inl before
      · intro inode before
        obtain ⟨other, there, same⟩ := refers_iff_holds.mp before
        exact refers_iff_holds.mpr ⟨other, (holds other).mpr (.inr there), same⟩
      · exact refers_iff_holds.mpr ⟨held, (holds held).mpr (.inl rfl), same⟩

variable [ByteDevice κ]

theorem Reading.effect {length : Nat} {result : EStateM.Result Stop (Service σ κ) Bytes}
    (reading : Reading s pid fd length result) : Effect s none (stateOf result) := by
  cases reading with
  | moved slot shown readable positive answer inside repositioning =>
      exact .of_repositioning repositioning .nothing
  | _ => exact .of_tables rfl .nothing

theorem Writing.effect {data : Bytes} {result : EStateM.Result Stop (Service σ κ) Nat}
    (writing : Writing s pid fd data result) : Effect s none (stateOf result) := by
  cases writing with
  | refused slot shown writable positive answer => exact .of_tables rfl (.written answer)
  | overflow slot shown writable positive answer outside => exact .of_tables rfl (.written answer)
  | moved slot shown writable positive answer inside repositioning =>
      exact .of_repositioning repositioning (.written answer)
  | _ => exact .of_tables rfl .nothing

/-- The effect of a request, over every storage and from balanced tables. -/
theorem effect_next (balanced : s.tables.Balanced) (request : Request) :
    Effect s (s.storageOpens request) (s.next request) := by
  rw [next_eq]
  cases request with
  | createProcess pid => exact (creating s pid).effect.map fun _ => Reply.done
  | spawn =>
      refine Effect.map ?_ Reply.process
      rw [run_spawn]
      exact .of_withCounter ((creating _ s.freshPid).effect.map fun _ => s.freshPid)
  | fork parent =>
      refine Effect.map ?_ Reply.process
      rw [run_fork]
      split
      · have counted : (s.withCounter s.freshPid.next).tables.Balanced := balanced
        exact .of_withCounter ((forking counted).effect.map fun _ => s.freshPid)
      · exact .of_tables rfl .nothing
  | forkProcess parent child => exact (forking balanced).effect.map fun _ => Reply.done
  | endProcess pid => exact (ending balanced).effect.map fun _ => Reply.done
  | openPath pid path flags permission =>
      exact ((opening balanced).effect balanced).map Reply.descriptor
  | close pid fd => exact (closing balanced).effect.map fun _ => Reply.done
  | duplicate pid old new => exact (duplicating balanced).effect.map Reply.descriptor
  | requireRights pid fd asked => exact (checking balanced asked).effect.map fun _ => Reply.done
  | read pid fd length => exact (reading balanced length).effect.map Reply.data
  | write pid fd data => exact (writing balanced data).effect.map Reply.number
  | seek pid fd distance whence =>
      exact (seeking balanced distance whence).effect.map Reply.number
  | tell pid fd => exact (telling balanced).effect.map Reply.number
  | members pid fd => exact (listing balanced).effect.map Reply.handles
  | workingDirectory =>
      refine Effect.map ?_ Reply.text
      simp only [workingDirectory, EStateM.run_bind, EStateM.run_get]
      cases Storage.workingDirectory s.storage <;> exact .of_tables rfl .nothing
  | remove path => exact (removing s path).effect.map fun _ => Reply.done

end Operations

end Service

end OpenFiles
