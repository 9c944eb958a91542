import OpenFiles.Proofs.Service.Contents

/-!
# Appends are neither lost nor overlapped

A write through a group that was opened for appends starts at the end of the file,
wherever the cursor of the group is. So as long as a regular file is written through such
groups only, its contents grow by the buffers of the writes that are granted, in the
order of the calls: `appends_in_call_order`. Whoever else reads, seeks, duplicates,
forks, closes or removes in between makes no difference.

`dataAt_next` is the step lemma: a request adds to the contents what it appends, and an
append is a write that is granted. All other changes of contents are excluded by
`rewrites_of_dataAt_ne`.
-/

namespace OpenFiles

namespace Tables

variable {tables after : Tables} {handle : Handle} {id : GroupId} {file : OpenFile}

/-- The open file behind a handle. A standard stream is none. -/
def target? (tables : Tables) (handle : Handle) : Option OpenFile :=
  match tables.slot? handle with
  | some (.shared id) => tables.file? id
  | _ => none

theorem target?_of_slot (slot : tables.slot? handle = some (.shared id)) :
    tables.target? handle = tables.file? id := by
  rw [target?, slot]

theorem target?_eq_some :
    tables.target? handle = some file ↔
      ∃ id, tables.slot? handle = some (.shared id) ∧ tables.file? id = some file := by
  constructor
  · intro target
    rw [target?] at target
    split at target
    · rename_i id slot
      exact ⟨id, slot, target⟩
    · cases target
  · rintro ⟨id, slot, shown⟩
    rw [target?_of_slot slot, shown]

theorem rights?_of_target? (target : tables.target? handle = some file) :
    tables.rights? handle = some file.rights := by
  obtain ⟨id, slot, shown⟩ := target?_eq_some.mp target
  simp only [rights?, slot, shown, Option.map_some]

theorem Repositioning.slot? {cursor : Nat} {refs : List Reference}
    (repositioning : Repositioning tables id cursor refs after) (handle : Handle) :
    after.slot? handle = tables.slot? handle := by
  rw [Tables.slot?, repositioning.processes, Tables.slot?]

/-- A move of a cursor leaves every descriptor its object and its rights. -/
theorem Repositioning.target? {cursor : Nat} {refs : List Reference}
    (repositioning : Repositioning tables id cursor refs after) (handle : Handle) :
    ∃ move : OpenFile → OpenFile,
      (∀ file, (move file).object = file.object ∧ (move file).rights = file.rights) ∧
      after.target? handle = (tables.target? handle).map move := by
  simp only [Tables.target?, repositioning.slot?]
  split
  · rename_i group slot
    rw [repositioning.files]
    split
    · rename_i here
      subst here
      exact ⟨fun file => { file with cursor := cursor }, fun _ => ⟨rfl, rfl⟩, rfl⟩
    · exact ⟨fun file => file, fun _ => ⟨rfl, rfl⟩, Option.map_id_apply.symm⟩
  · exact ⟨fun file => file, fun _ => ⟨rfl, rfl⟩, rfl⟩

end Tables

namespace OpenFile

variable {σ : Type} [Storage σ] {store : σ} {file later : OpenFile} {data : Bytes}

/-- A write of the data through an open file is granted: the file may be written, and the
storage takes the data if there is any. -/
structure Takes (file : OpenFile) (store : σ) (data : Bytes) : Prop where
  writable : file.rights.write = true
  taken : data ≠ [] → ∃ count after,
    Storage.writeAt file.object (file.start store) data store = (.ok count, after) ∧
      file.start store + count < wordLimit

/-- For an append it makes no difference where the cursor is. -/
theorem takes_congr (object : later.object = file.object) (rights : later.rights = file.rights)
    (append : file.rights.write = true → file.rights.append = true) :
    later.Takes store data ↔ file.Takes store data := by
  have start (writable : file.rights.write = true) : later.start store = file.start store := by
    rw [OpenFile.start, OpenFile.start, rights, object, if_pos (append writable),
      if_pos (append writable)]
  constructor
  · rintro ⟨writable, taken⟩
    rw [rights] at writable
    rw [object, start writable] at taken
    exact ⟨writable, taken⟩
  · rintro ⟨writable, taken⟩
    rw [← object, ← start writable] at taken
    rw [← rights] at writable
    exact ⟨writable, taken⟩

end OpenFile

namespace Service

open OpenFiles.Action FileTree

section Writes

variable {σ κ : Type} [Storage σ] [ByteDevice κ] {s : Service σ κ}
variable {pid : Pid} {fd : Descriptor} {data : Bytes} {file : OpenFile}

/-- The outcome of a write through a descriptor on an open file. -/
inductive Sending (s : Service σ κ) (pid : Pid) (fd : Descriptor) (data : Bytes)
    (file : OpenFile) : Except Stop Reply × Service σ κ → Prop
  | stopped {stop : Stop} {later : Service σ κ} (denied : ¬ file.Takes s.storage data) :
      Sending s pid fd data file (.error stop, later)
  | nothing (writable : file.rights.write = true) (zero : data = []) :
      Sending s pid fd data file (.ok (.number 0), s)
  | moved {group : GroupId} {count : Nat} {store : σ} {after : Tables}
      (slot : s.tables.slot? ⟨pid, fd⟩ = some (.shared group))
      (shown : s.tables.file? group = some file) (writable : file.rights.write = true)
      (positive : data ≠ [])
      (answer : Storage.writeAt file.object (file.start s.storage) data s.storage =
        (.ok count, store))
      (inside : file.start s.storage + count < wordLimit)
      (repositioning : Tables.Repositioning s.tables group (file.start s.storage + count)
        s.tables.references after) :
      Sending s pid fd data file (.ok (.number count), (s.withStorage store).withTables after)

theorem sending (balanced : s.tables.Balanced) (data : Bytes)
    (target : s.tables.target? ⟨pid, fd⟩ = some file) :
    Sending s pid fd data file ((perform (.write pid fd data)).outcome s) := by
  obtain ⟨group, there, behind⟩ := Tables.target?_eq_some.mp target
  have same {group' : GroupId} {file' : OpenFile}
      (slot : s.tables.slot? ⟨pid, fd⟩ = some (.shared group'))
      (shown : s.tables.file? group' = some file') : file' = file := by
    have found := Tables.target?_eq_some.mpr ⟨group', slot, shown⟩
    rw [target, Option.some.injEq] at found
    exact found.symm
  have run : (perform (.write pid fd data)).run s =
      (write pid fd data >>= fun count => pure (.number count)).run s := rfl
  have outcome : Writing s pid fd data _ := writing balanced data
  rw [outcome_eq, run, EStateM.run_bind]
  generalize (write pid fd data).run s = result at outcome
  cases outcome with
  | unresolved why => cases why.slot?.symm.trans there
  | forbidden given lacking =>
      rw [Tables.rights?_of_target? target, Option.some.injEq] at given
      refine .stopped fun takes => ?_
      have writable := takes.writable
      rw [given, lacking] at writable
      cases writable
  | consoleRefused slot => cases slot.symm.trans there
  | console slot => cases slot.symm.trans there
  | nothing slot shown writable zero =>
      obtain rfl := same slot shown
      exact .nothing writable zero
  | refused slot shown writable positive answer =>
      obtain rfl := same slot shown
      refine .stopped fun takes => ?_
      obtain ⟨count, after, granted, _⟩ := takes.taken positive
      rw [answer] at granted
      cases granted
  | overflow slot shown writable positive answer outside =>
      obtain rfl := same slot shown
      refine .stopped fun takes => ?_
      obtain ⟨count, after, granted, inside⟩ := takes.taken positive
      rw [answer] at granted
      cases granted
      exact outside inside
  | moved slot shown writable positive answer inside repositioning =>
      obtain rfl := same slot shown
      exact .moved slot shown writable positive answer inside repositioning

/-- A write is answered exactly if its open file takes the data. -/
theorem answered_iff_takes (balanced : s.tables.Balanced)
    (target : s.tables.target? ⟨pid, fd⟩ = some file) :
    (∃ reply, ((perform (.write pid fd data)).outcome s).1 = .ok reply) ↔
      file.Takes s.storage data := by
  have outcome := sending balanced data target
  generalize (perform (.write pid fd data)).outcome s = result at outcome
  cases outcome with
  | stopped denied => simp [denied]
  | nothing writable zero => simpa using ⟨writable, fun positive => absurd zero positive⟩
  | moved slot shown writable positive answer inside repositioning =>
      simpa using ⟨writable, fun _ => ⟨_, _, answer, inside⟩⟩

/-- A seek changes neither the storage, nor what a descriptor is on, nor what it may be
used for. -/
theorem target?_next_seek (balanced : s.tables.Balanced) (pid : Pid) (fd : Descriptor)
    (distance : Int) (whence : Nat) (handle : Handle) :
    (s.next (.seek pid fd distance whence)).storage = s.storage ∧
    ∃ move : OpenFile → OpenFile,
      (∀ file, (move file).object = file.object ∧ (move file).rights = file.rights) ∧
      (s.next (.seek pid fd distance whence)).tables.target? handle =
        (s.tables.target? handle).map move := by
  have run : (perform (.seek pid fd distance whence)).run s =
      (seek pid fd distance whence >>= fun cursor => pure (.number cursor)).run s := rfl
  have outcome : Seeking s pid fd distance whence _ := seeking balanced distance whence
  rw [next_eq, run, EStateM.run_bind]
  generalize (seek pid fd distance whence).run s = result at outcome
  cases outcome with
  | moved slot shown seekable asked exact inside repositioning =>
      exact ⟨rfl, repositioning.target? handle⟩
  | _ => exact ⟨rfl, fun file => file, fun _ => ⟨rfl, rfl⟩, Option.map_id_apply.symm⟩

end Writes

variable {κ : Type} [ByteDevice κ] {s : Service FileTree κ} {id : NodeId} {request : Request}
variable {pid : Pid} {fd : Descriptor} {data : Bytes} {file : OpenFile}

/-- What a request appends to the node in a row: the buffer of a write on the node, if it
is granted, and otherwise nothing. -/
def appended (s : Service FileTree κ) (id : NodeId) : Request → Bytes
  | .write pid fd data =>
    match s.tables.target? ⟨pid, fd⟩, ((perform (.write pid fd data)).outcome s).1 with
    | some file, .ok _ => if file.object.node = id then data else []
    | _, _ => []
  | _ => []

/-- What a history appends to the node in a row, in the order of the calls. -/
def appendedBy (s : Service FileTree κ) (id : NodeId) : List Request → Bytes
  | [] => []
  | request :: rest => s.appended id request ++ (s.next request).appendedBy id rest

/-- A request changes the contents of a node by an append at most. If it writes to the
node, then through a group whose open asked for appends, or for no writes at all. If it is
an open, it does not empty the node. -/
def AppendsAtMost (s : Service FileTree κ) (id : NodeId) : Request → Prop
  | .write pid fd _ =>
    ∀ group file flags, s.tables.slot? ⟨pid, fd⟩ = some (.shared group) →
      s.tables.file? group = some file → file.object.node = id →
      OpenedWith Administered group flags s → flags.asksWrite = true → flags.append = true
  | .openPath _ path flags _ => ¬ Emptied s.storage path flags id
  | _ => True

/-- A history leaves the contents of a node to appends: no request does more, and the node
has a path or a descriptor all along. -/
def OnlyAppends (s : Service FileTree κ) (id : NodeId) : List Request → Prop
  | [] => True
  | request :: rest =>
    s.AppendsAtMost id request ∧
      ((s.next request).storage.Present id ∨ (s.next request).HoldsNode id) ∧
      (s.next request).OnlyAppends id rest

/-- Where a write lands: all of it behind the contents of the node in a row, with the
cursor of its group behind that. A write of nothing leaves everything as it is. -/
structure Lands (s : Service FileTree κ) (id : NodeId) (pid : Pid) (fd : Descriptor)
    (data : Bytes) : Prop where
  answer : ((perform (.write pid fd data)).outcome s).1 = .ok (.number data.length)
  contents : (s.next (.write pid fd data)).storage.dataAt id = s.storage.dataAt id ++ data
  cursor : data ≠ [] →
    ∃ file, (s.next (.write pid fd data)).tables.target? ⟨pid, fd⟩ = some file ∧
      file.cursor = ((s.next (.write pid fd data)).storage.dataAt id).length
  idle : data = [] → s.next (.write pid fd data) = s

/-- A write that is granted is then made through a group that appends. -/
theorem AppendsAtMost.append (atMost : s.AppendsAtMost id (.write pid fd data)) (sole : Sole s)
    (target : s.tables.target? ⟨pid, fd⟩ = some file) (here : file.object.node = id)
    (writable : file.rights.write = true) : file.rights.append = true := by
  obtain ⟨group, slot, shown⟩ := Tables.target?_eq_some.mp target
  obtain ⟨flags, opened⟩ := exists_openedWith sole.reachable shown
  obtain ⟨file', shown', asked⟩ := opened.rights
  rw [shown, Option.some.injEq] at shown'
  subst shown'
  obtain ⟨asksWrite, asksAppend⟩ := OpenFlags.asks_of_rights asked
  rw [← asksAppend]
  exact atMost group file flags slot shown here opened (asksWrite.trans writable)

theorem appendsAtMost_of_append (target : s.tables.target? ⟨pid, fd⟩ = some file)
    (append : file.rights.append = true) : s.AppendsAtMost id (.write pid fd data) := by
  obtain ⟨group, slot, shown⟩ := Tables.target?_eq_some.mp target
  intro group' file' flags slot' shown' _ opened _
  obtain ⟨file'', shown'', asked⟩ := opened.rights
  cases slot.symm.trans slot'
  rw [shown, Option.some.injEq] at shown' shown''
  rw [(OpenFlags.asks_of_rights asked).2, ← shown'', append]

/-- A granted append goes to the end of a regular file, and the cursor with it. -/
theorem lands (sole : Sole s) (regular : s.storage.kindOf id = some .regular)
    (target : s.tables.target? ⟨pid, fd⟩ = some file) (here : file.object.node = id)
    (atMost : s.AppendsAtMost id (.write pid fd data))
    (granted : ∃ reply, ((perform (.write pid fd data)).outcome s).1 = .ok reply) :
    Lands s id pid fd data := by
  subst here
  have outcome := sending sole.balanced data target
  generalize result : (perform (.write pid fd data)).outcome s = answered at outcome granted
  have now : s.next (.write pid fd data) = answered.2 := congrArg Prod.snd result
  cases outcome with
  | stopped denied =>
      obtain ⟨reply, granted⟩ := granted
      cases granted
  | nothing writable zero =>
      subst zero
      exact ⟨congrArg Prod.fst result, by rw [now, List.append_nil],
        fun positive => absurd rfl positive, fun _ => now⟩
  | @moved group count store after slot shown writable positive answer inside repositioning =>
      -- The cursor plays no part: the write starts at the size of the file.
      have finish : file.start s.storage = FileTree.sizeOf file.object s.storage :=
        if_pos (atMost.append sole target rfl writable)
      rw [finish] at answer repositioning
      obtain ⟨rfl, contents⟩ := dataAt_append regular answer
      have moved := repositioning.files group
      rw [if_pos rfl, shown] at moved
      refine ⟨congrArg Prod.fst result, by rwa [now], fun _ => ?_, fun zero => absurd zero positive⟩
      rw [now]
      refine ⟨_, Tables.target?_eq_some.mpr ⟨group, ?_, moved⟩, ?_⟩
      · exact (repositioning.slot? ⟨pid, fd⟩).trans slot
      · change _ = (store.dataAt file.object.node).length
        rw [contents, List.length_append, ← sizeOf_eq_length]

theorem appended_of_answer {reply : Reply} (target : s.tables.target? ⟨pid, fd⟩ = some file)
    (here : file.object.node = id)
    (answer : ((perform (.write pid fd data)).outcome s).1 = .ok reply) :
    s.appended id (.write pid fd data) = data := by
  simp only [appended, target, answer, if_pos here]

/-- What adds something to a node is a write on the node that is answered. -/
theorem appended_cases (s : Service FileTree κ) (id : NodeId) (request : Request) :
    s.appended id request = [] ∨
      ∃ pid fd data file reply, request = .write pid fd data ∧
        s.tables.target? ⟨pid, fd⟩ = some file ∧ file.object.node = id ∧
        ((perform (.write pid fd data)).outcome s).1 = .ok reply := by
  cases request with
  | write pid fd data =>
      rw [appended]
      split
      · rename_i file reply target answer
        split
        · rename_i here
          exact .inr ⟨pid, fd, data, file, reply, rfl, target, here, answer⟩
        · exact .inl rfl
      · exact .inl rfl
  | _ => exact .inl rfl

theorem appended_of_refused
    (refused : ¬ ∃ reply, ((perform (.write pid fd data)).outcome s).1 = .ok reply) :
    s.appended id (.write pid fd data) = [] := by
  rcases appended_cases s id (.write pid fd data) with
    nothing | ⟨_, _, _, _, reply, same, _, _, answer⟩
  · exact nothing
  · cases same
    exact absurd ⟨reply, answer⟩ refused

theorem appended_elsewhere (target : s.tables.target? ⟨pid, fd⟩ = some file)
    (elsewhere : file.object.node ≠ id) : s.appended id (.write pid fd data) = [] := by
  rcases appended_cases s id (.write pid fd data) with
    nothing | ⟨_, _, _, _, _, same, target', here, _⟩
  · exact nothing
  · cases same
    cases target.symm.trans target'
    exact absurd here elsewhere

/-- A request that does no more than append adds what it appends to a regular file. -/
theorem dataAt_next (sole : Sole s) (regular : s.storage.kindOf id = some .regular)
    (atMost : s.AppendsAtMost id request)
    (stays : (s.next request).storage.Present id ∨ (s.next request).HoldsNode id) :
    (s.next request).storage.dataAt id = s.storage.dataAt id ++ s.appended id request := by
  rcases appended_cases s id request with nothing | granted
  · rw [nothing, List.append_nil]
    by_contra changed
    cases rewrites_of_dataAt_ne sole.balanced changed with
    | written slot shown writable here positive answer =>
        have target := Tables.target?_eq_some.mpr ⟨_, slot, shown⟩
        exact positive ((appended_of_answer target here answer).symm.trans nothing)
    | emptied emptied => exact atMost emptied
    | dropped spent =>
        rcases stays with present | held
        · exact spent.removedAt.not_present present
        · exact (sole.next request).not_spentAt_of_holdsNode held spent
  · obtain ⟨pid, fd, data, file, reply, rfl, target, here, answer⟩ := granted
    rw [appended_of_answer target here answer]
    exact (lands sole regular target here atMost ⟨reply, answer⟩).contents

/-- A seek makes no difference to what the write after it appends. -/
theorem appended_next_seek (sole : Sole s) {pid' : Pid} {fd' : Descriptor} {distance : Int}
    {whence : Nat}
    (atMost : (s.next (.seek pid fd distance whence)).AppendsAtMost id (.write pid' fd' data)) :
    (s.next (.seek pid fd distance whence)).appended id (.write pid' fd' data) =
      s.appended id (.write pid' fd' data) := by
  obtain ⟨storage, move, same, moved⟩ :=
    target?_next_seek sole.balanced pid fd distance whence ⟨pid', fd'⟩
  have soleNext := sole.next (.seek pid fd distance whence)
  generalize s.next (.seek pid fd distance whence) = after at atMost storage moved soleNext
  cases target : s.tables.target? ⟨pid', fd'⟩ with
  | none =>
      rw [target] at moved
      simp only [appended, target, moved, Option.map_none]
  | some file =>
      rw [target, Option.map_some] at moved
      have object := (same file).1
      have rights := (same file).2
      by_cases here : file.object.node = id
      · have append (writable : file.rights.write = true) : file.rights.append = true := by
          rw [← rights] at writable ⊢
          exact atMost.append soleNext moved (object ▸ here) writable
        have answered : (∃ reply, ((perform (.write pid' fd' data)).outcome s).1 = .ok reply) ↔
          file.Takes s.storage data := answered_iff_takes sole.balanced target
        rw [← OpenFile.takes_congr object rights append, ← storage,
          ← answered_iff_takes soleNext.balanced moved] at answered
        by_cases granted : ∃ reply, ((perform (.write pid' fd' data)).outcome s).1 = .ok reply
        · obtain ⟨reply, answer⟩ := granted
          obtain ⟨reply', answer'⟩ := answered.mp ⟨reply, answer⟩
          rw [appended_of_answer target here answer,
            appended_of_answer moved (object ▸ here) answer']
        · rw [appended_of_refused granted, appended_of_refused (mt answered.mpr granted)]
      · rw [appended_elsewhere target here, appended_elsewhere moved (object ▸ here)]

theorem OnlyAppends.split {first second : List Request}
    (onlyAppends : s.OnlyAppends id (first ++ second)) :
    s.OnlyAppends id first ∧ (s.after first).OnlyAppends id second := by
  induction first generalizing s with
  | nil => exact ⟨trivial, onlyAppends⟩
  | cons request rest ih =>
      obtain ⟨atMost, stays, later⟩ := onlyAppends
      obtain ⟨front, back⟩ := ih later
      exact ⟨⟨atMost, stays, front⟩, back⟩

theorem kindOf_after (sole : Sole s) {kind : FileKind} (known : s.storage.kindOf id = some kind)
    (history : List Request) : (s.after history).storage.kindOf id = some kind := by
  obtain ⟨node, found, rfl⟩ := Option.map_eq_some_iff.mp known
  obtain ⟨now, there, _, same⟩ := sole.reachable.extends_after history id node found
  rw [kindOf, there, Option.map_some, same]

/-- Over a history that leaves a regular file to appends, its contents grow by what the
history appends. -/
theorem dataAt_after (sole : Sole s) (regular : s.storage.kindOf id = some .regular)
    {history : List Request} (onlyAppends : s.OnlyAppends id history) :
    (s.after history).storage.dataAt id = s.storage.dataAt id ++ s.appendedBy id history := by
  induction history generalizing s with
  | nil => exact (List.append_nil _).symm
  | cons request rest ih =>
      obtain ⟨atMost, stays, later⟩ := onlyAppends
      have regularNext := kindOf_after sole regular [request]
      rw [after_cons, ih (sole.next request) regularNext later,
        dataAt_next sole regular atMost stays, appendedBy, List.append_assoc]

/-- Appends are neither lost nor overlapped. Over a history that leaves a regular file to
appends, its contents grow by the buffers of the writes on the file that are granted, in
the order of the calls. Each of these writes lands behind the contents it finds, and a
seek right before it makes no difference to what it appends. -/
theorem appends_in_call_order (sole : Sole s) (regular : s.storage.kindOf id = some .regular)
    {history : List Request} (onlyAppends : s.OnlyAppends id history) :
    (s.after history).storage.dataAt id = s.storage.dataAt id ++ s.appendedBy id history ∧
    (∀ before rest pid fd data file reply, history = before ++ .write pid fd data :: rest →
      (s.after before).tables.target? ⟨pid, fd⟩ = some file → file.object.node = id →
      ((perform (.write pid fd data)).outcome (s.after before)).1 = .ok reply →
      Lands (s.after before) id pid fd data) ∧
    ∀ before rest pid fd distance whence pid' fd' data,
      history = before ++ .seek pid fd distance whence :: .write pid' fd' data :: rest →
      ((s.after before).next (.seek pid fd distance whence)).appended id (.write pid' fd' data) =
        (s.after before).appended id (.write pid' fd' data) := by
  refine ⟨dataAt_after sole regular onlyAppends, ?_, ?_⟩
  · rintro before rest pid fd data file reply rfl target here answer
    exact lands (sole.after before) (kindOf_after sole regular before) target here
      onlyAppends.split.2.1 ⟨reply, answer⟩
  · rintro before rest pid fd distance whence pid' fd' data rfl
    exact appended_next_seek (sole.after before) onlyAppends.split.2.2.2.1

/-- Two processes append through a group that one inherited from the other, and through one
of its own, with the cursor of the first sent back to the start in between. -/
theorem appends_through_two_groups :
    ∃ start : Service FileTree MemoryConsole,
      build ⟨3, 6⟩ ([.createFile "/a" [1, 2, 3]].foldl FileTree.after initial) (.ofCapacity 4) =
        .ok start ∧
      (start.after [.createProcess ⟨1⟩, .openPath ⟨1⟩ "/a" (.ofBits 34) 0,
        .forkProcess ⟨1⟩ ⟨2⟩, .openPath ⟨2⟩ "/a" (.ofBits 33) 0, .write ⟨2⟩ ⟨4⟩ [7],
        .seek ⟨1⟩ ⟨3⟩ 0 0, .write ⟨2⟩ ⟨3⟩ [8, 9], .remove "/a",
        .write ⟨2⟩ ⟨4⟩ [4]]).storage.dataAt ⟨4⟩ = [1, 2, 3, 7, 8, 9, 4] := by
  have built : build ⟨3, 6⟩ ([.createFile "/a" [1, 2, 3]].foldl FileTree.after initial)
    (MemoryConsole.ofCapacity 4) = .ok _ := rfl
  have sole := (Sole.built _ built).after [.createProcess ⟨1⟩,
    .openPath ⟨1⟩ "/a" (.ofBits 34) 0, .forkProcess ⟨1⟩ ⟨2⟩, .openPath ⟨2⟩ "/a" (.ofBits 33) 0]
  refine ⟨_, built, ?_⟩
  refine (@appends_in_call_order _ _ _ ⟨4⟩ sole rfl [.write ⟨2⟩ ⟨4⟩ [7], .seek ⟨1⟩ ⟨3⟩ 0 0,
    .write ⟨2⟩ ⟨3⟩ [8, 9], .remove "/a", .write ⟨2⟩ ⟨4⟩ [4]] ?_).1.trans rfl
  refine ⟨appendsAtMost_of_append rfl rfl, .inl ⟨_, rfl, rfl⟩, trivial, .inl ⟨_, rfl, rfl⟩,
    appendsAtMost_of_append rfl rfl, .inl ⟨_, rfl, rfl⟩, trivial, .inr ?_,
    appendsAtMost_of_append rfl rfl, .inr ?_, trivial⟩
  · exact ⟨_, ⟨(⟨⟨2⟩, ⟨4⟩⟩, _), Tables.mem_references_iff.mpr rfl, _, rfl, rfl⟩, rfl⟩
  · exact ⟨_, ⟨(⟨⟨2⟩, ⟨4⟩⟩, _), Tables.mem_references_iff.mpr rfl, _, rfl, rfl⟩, rfl⟩

/-- A file of three bytes is opened for appends, its cursor is sent back to the start, and
nothing is written. The write is granted, and the cursor stays where it is. -/
theorem cursor_stays_after_empty_append :
    ∃ s : Service FileTree MemoryConsole, Sole s ∧ s.storage.kindOf ⟨4⟩ = some .regular ∧
      s.OnlyAppends ⟨4⟩ [.seek ⟨1⟩ ⟨3⟩ 0 0, .write ⟨1⟩ ⟨3⟩ []] ∧
      ((perform (.write ⟨1⟩ ⟨3⟩ [])).outcome (s.after [.seek ⟨1⟩ ⟨3⟩ 0 0])).1 =
        .ok (.number 0) ∧
      ∃ file, (s.after [.seek ⟨1⟩ ⟨3⟩ 0 0, .write ⟨1⟩ ⟨3⟩ []]).tables.target? ⟨⟨1⟩, ⟨3⟩⟩ =
          some file ∧
        file.object.node = ⟨4⟩ ∧ file.rights.append = true ∧ file.cursor = 0 ∧
        (s.after [.seek ⟨1⟩ ⟨3⟩ 0 0, .write ⟨1⟩ ⟨3⟩ []]).storage.dataAt ⟨4⟩ = [1, 2, 3] := by
  have built : build ⟨2, 5⟩ ([.createFile "/a" [1, 2, 3]].foldl FileTree.after initial)
    (MemoryConsole.ofCapacity 4) = .ok _ := rfl
  have sole := (Sole.built _ built).after [.createProcess ⟨1⟩, .openPath ⟨1⟩ "/a" (.ofBits 34) 0]
  refine ⟨_, sole, rfl, ?_, rfl, _, rfl, rfl, rfl, rfl, rfl⟩
  exact ⟨trivial, .inl ⟨_, rfl, rfl⟩, appendsAtMost_of_append rfl rfl, .inl ⟨_, rfl, rfl⟩, trivial⟩

end Service

end OpenFiles
