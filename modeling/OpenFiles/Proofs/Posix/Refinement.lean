import OpenFiles.Console.MemoryConsole
import OpenFiles.Proofs.Posix.Opening
import OpenFiles.Proofs.Posix.Transfers

/-!
# The service refines the descriptor model

The main result is `answers_eq_posix`: a new service over a file tree answers every
list of calls as the model does. Inode numbers have to tell nodes apart, and that is
all that is asked of the run: capacities may be reached, calls may be refused, and
cursors may overflow, in both alike.
-/

namespace OpenFiles

namespace Posix

variable {κ α : Type} {s : Service FileTree κ} {m : State FileTree κ}

/-- The states stand for each other, and the service is in good order. -/
structure Related (s : Service FileTree κ) (m : State FileTree κ) : Prop where
  simulates : Simulates s m
  balanced : s.tables.Balanced
  anchored : s.Anchored

/-- Nothing is open in a new service, nor in the model. -/
theorem related_initial {capacities : Capacities} {storage : FileTree} {console : κ}
    (built : Service.build capacities storage console = .ok s) (reached : storage.Reached) :
    Related s (State.initial capacities storage console) := by
  have balanced := Service.balanced_of_build built
  obtain ⟨checked, system, journal, made, rfl⟩ := Service.eq_of_build built
  have nothing : ∀ ref, ref ∉ referencesOf (∅ : OrderedMap Pid DescriptorTable) :=
    fun _ => List.not_mem_nil
  have mirrored : MirroredBy (fun _ => 0) capacities ⟨system, .empty, ∅⟩ ∅ [] := by
    refine ⟨OpenTable.size_ofSize made, ?_, ?_, ?_⟩
    · intro pid
      rw [OrderedMap.get?_empty, OrderedMap.get?_empty]
      exact .none
    · exact fun ref member => absurd member (nothing ref)
    · exact fun ref member => absurd member (nothing ref)
  refine ⟨⟨checked, rfl, rfl, rfl, rfl, reached.linked, ?_, _, mirrored⟩, balanced, ?_⟩
  · rintro object ⟨ref, member, _⟩
    exact absurd member (nothing ref)
  · rintro object ⟨ref, member, _⟩
    exact absurd member (nothing ref)

theorem outcome_state (action : Action (Service FileTree κ) α) (reply : α → Reply)
    (s : Service FileTree κ) :
    ((action >>= fun value => pure (reply value)).outcome s).2 = Action.stateOf (action.run s) := by
  rw [Action.outcome_eq, EStateM.run_bind]
  cases action.run s <;> rfl

/-- An answer that is made into a reply. -/
theorem answer_of_agrees {action : Action (Service FileTree κ) α} {reply : α → Reply}
    {outcome : Except Stop Reply × State FileTree κ}
    (agrees : Agrees reply (action.run s) outcome) :
    ((action >>= fun value => pure (reply value)).outcome s).1 = outcome.1 ∧
      Simulates ((action >>= fun value => pure (reply value)).outcome s).2 outcome.2 := by
  rw [Action.outcome_eq, EStateM.run_bind]
  generalize action.run s = result at agrees
  cases result with
  | ok value after => exact ⟨agrees.1.symm, agrees.2⟩
  | error stop after => exact ⟨agrees.1.symm, agrees.2⟩

variable [ByteDevice κ]

/-- A call is answered alike, and the states after it stand for each other. -/
theorem agrees_call (related : Related s m) (call : Call)
    (apart : ((Service.serve call).outcome s).2.storage.Identifies) :
    ((Service.serve call).outcome s).1 = (m.call call).1 ∧
      Simulates ((Service.serve call).outcome s).2 (m.call call).2 := by
  obtain ⟨simulates, balanced, anchored⟩ := related
  cases call with
  | createProcess pid =>
      exact answer_of_agrees (agrees_createProcess (Service.creating s pid) simulates)
  | forkProcess parent child =>
      exact answer_of_agrees (agrees_forkProcess (Service.forking balanced) simulates)
  | endProcess pid => exact answer_of_agrees (agrees_endProcess (Service.ending balanced) simulates)
  | openPath pid path flags permission =>
      have state := outcome_state (Service.openPath pid path flags permission) .descriptor s
      have later : (Action.stateOf
          ((Service.openPath pid path flags permission).run s)).storage.Identifies :=
        state ▸ apart
      exact answer_of_agrees
        (agrees_openPath balanced anchored (Service.opening balanced) later simulates)
  | close pid fd => exact answer_of_agrees (agrees_close (Service.closing balanced) simulates)
  | duplicate pid old new =>
      exact answer_of_agrees (agrees_duplicate (Service.duplicating balanced) simulates)
  | read pid fd length =>
      exact answer_of_agrees (agrees_read (Service.reading balanced length) simulates)
  | write pid fd data =>
      exact answer_of_agrees (agrees_write (Service.writing balanced data) simulates)
  | seek pid fd distance whence =>
      exact answer_of_agrees (agrees_seek (Service.seeking balanced distance whence) simulates)
  | tell pid fd => exact answer_of_agrees (agrees_tell (Service.telling balanced) simulates)
  | requireRights pid fd asked =>
      exact answer_of_agrees (agrees_requireRights (Service.checking balanced asked) simulates)
  | members pid fd =>
      exact answer_of_agrees (agrees_members balanced (Service.listing balanced) simulates)
  | handlesOn object =>
      obtain ⟨number, mirrored⟩ := simulates.mirrored
      have count : s.handlesOn object = m.descriptorsOn object.inode :=
        (balanced.handlesOn_eq object).trans (mirrored.descriptorsOn_eq object.inode).symm
      exact ⟨congrArg (fun n => (.ok (.number n) : Except Stop Reply)) count, simulates⟩
  | openObjects =>
      obtain ⟨number, mirrored⟩ := simulates.mirrored
      have count : s.openObjects = m.openInodes.length :=
        (mirrored.length_openInodes balanced).symm
      exact ⟨congrArg (fun n => (.ok (.number n) : Except Stop Reply)) count, simulates⟩

/-- Calls are requests, or questions that change nothing. -/
theorem serve_state (s : Service FileTree κ) (call : Call) :
    (∃ request, ((Service.serve call).outcome s).2 = s.next request) ∨
      ((Service.serve call).outcome s).2 = s := by
  cases call with
  | createProcess pid => exact .inl ⟨.createProcess pid, rfl⟩
  | forkProcess parent child => exact .inl ⟨.forkProcess parent child, rfl⟩
  | endProcess pid => exact .inl ⟨.endProcess pid, rfl⟩
  | openPath pid path flags permission => exact .inl ⟨.openPath pid path flags permission, rfl⟩
  | close pid fd => exact .inl ⟨.close pid fd, rfl⟩
  | duplicate pid old new => exact .inl ⟨.duplicate pid old new, rfl⟩
  | read pid fd length => exact .inl ⟨.read pid fd length, rfl⟩
  | write pid fd data => exact .inl ⟨.write pid fd data, rfl⟩
  | seek pid fd distance whence => exact .inl ⟨.seek pid fd distance whence, rfl⟩
  | tell pid fd => exact .inl ⟨.tell pid fd, rfl⟩
  | requireRights pid fd asked => exact .inl ⟨.requireRights pid fd asked, rfl⟩
  | members pid fd => exact .inl ⟨.members pid fd, rfl⟩
  | handlesOn object => exact .inr rfl
  | openObjects => exact .inr rfl

/-- One call keeps the states related, and loses no node. -/
theorem related_call (related : Related s m) (call : Call)
    (apart : ((Service.serve call).outcome s).2.storage.Identifies) :
    ((Service.serve call).outcome s).1 = (m.call call).1 ∧
      Related ((Service.serve call).outcome s).2 (m.call call).2 := by
  obtain ⟨answer, simulates⟩ := agrees_call related call apart
  refine ⟨answer, simulates, ?_, ?_⟩
  · rcases serve_state s call with ⟨request, next⟩ | same
    · rw [next]
      exact Service.balanced_next related.balanced request
    · rw [same]
      exact related.balanced
  · rcases serve_state s call with ⟨request, next⟩ | same
    · rw [next]
      exact (Service.effect_next related.balanced request).anchored related.anchored
    · rw [same]
      exact related.anchored

theorem extends_serve (balanced : s.tables.Balanced) (call : Call) :
    ((Service.serve call).outcome s).2.tables.Balanced ∧
      s.storage.Extends ((Service.serve call).outcome s).2.storage := by
  rcases serve_state s call with ⟨request, next⟩ | same
  · rw [next]
    exact ⟨Service.balanced_next balanced request, (Service.effect_next balanced request).extends⟩
  · rw [same]
    exact ⟨balanced, .refl s.storage⟩

theorem extends_served (balanced : s.tables.Balanced) (calls : List Call) :
    s.storage.Extends (s.served calls).storage := by
  induction calls generalizing s with
  | nil => exact .refl s.storage
  | cons call rest ih =>
      obtain ⟨after, grown⟩ := extends_serve balanced call
      exact grown.trans (ih after)

/-- From related states all calls are answered alike. -/
theorem answers_of_related (related : Related s m) (calls : List Call)
    (apart : (s.served calls).storage.Identifies) : s.answers calls = m.answers calls := by
  induction calls generalizing s m with
  | nil => rfl
  | cons call rest ih =>
      have balanced := (extends_serve related.balanced call).1
      have next : ((Service.serve call).outcome s).2.storage.Identifies :=
        (extends_served balanced rest).identifies apart
      obtain ⟨answer, relatedNext⟩ := related_call related call next
      rw [Service.answers, State.answers, answer, ih relatedNext apart]

end Posix

namespace Service

variable {κ : Type} [ByteDevice κ] {s : Service FileTree κ}

/-- A new service over a file tree answers all calls as the descriptor model does. -/
theorem answers_eq_posix {capacities : Capacities} {storage : FileTree} {console : κ}
    (built : build capacities storage console = .ok s) (reached : storage.Reached)
    (calls : List Posix.Call) (apart : (s.served calls).storage.Identifies) :
    s.answers calls = (Posix.State.initial capacities storage console).answers calls :=
  Posix.answers_of_related (Posix.related_initial built reached) calls apart

/-- Two opens of one file, a descriptor that is shared with a forked process, and a
write that the sharers see. -/
theorem answers_eq_posix_shared :
    let calls : List Posix.Call := [.createProcess ⟨1⟩, .openPath ⟨1⟩ "/a" (.ofBits 6) 0,
      .openPath ⟨1⟩ "/a" (.ofBits 2) 0, .forkProcess ⟨1⟩ ⟨2⟩, .write ⟨2⟩ ⟨3⟩ [1, 2],
      .tell ⟨1⟩ ⟨3⟩, .read ⟨1⟩ ⟨4⟩ 8, .close ⟨1⟩ ⟨3⟩, .members ⟨2⟩ ⟨3⟩]
    ∃ start : Service FileTree MemoryConsole,
      build ⟨2, 6⟩ FileTree.initial (.ofCapacity 4) = .ok start ∧
      start.answers calls =
        (Posix.State.initial ⟨2, 6⟩ FileTree.initial (MemoryConsole.ofCapacity 4)).answers calls ∧
      start.answers calls = [.ok .done, .ok (.descriptor ⟨3⟩), .ok (.descriptor ⟨4⟩), .ok .done,
        .ok (.number 2), .ok (.number 2), .ok (.data [1, 2]), .ok .done,
        .ok (.handles [⟨⟨2⟩, ⟨3⟩⟩])] := by
  have built : build ⟨2, 6⟩ FileTree.initial (MemoryConsole.ofCapacity 4) = .ok _ := rfl
  have alike := answers_eq_posix built .initial
  refine ⟨_, built, alike _ (FileTree.identifies_of_nodup (by decide +kernel)), ?_⟩
  rw [alike _ (FileTree.identifies_of_nodup (by decide +kernel))]
  decide

end Service

end OpenFiles
