import OpenFiles.FileTree.Storage
import OpenFiles.Proofs.Service.FreshPids
import OpenFiles.Proofs.Syscall.Agreement

/-!
# Processes that outlive their identifiers

A process makes system calls in the name of the identifier that it was given, also when the table
under it has ended. A system call changes the table of no other process, and an identifier
that was given out is not given out again before the counter has come round. So no process ever
gets at the table of one that was spawned or forked after it.
-/

namespace OpenFiles

namespace Machine

open OpenFiles.Action

variable {σ κ μ : Type} [Storage σ] [ByteDevice κ] [AddressSpace μ]
variable {machine decoded : Machine σ κ μ} {pid other : Pid} {args : Arguments} {call : Call}
variable {request : Request} {table : DescriptorTable}

omit [Storage σ] [ByteDevice κ] in
/-- What a system call is decoded to is a request of its process. -/
theorem madeBy_of_decoding
    (asked : Decoding machine pid args call (.ok (some request) decoded)) :
    request.MadeBy pid ∧ decoded.service.tables = machine.service.tables := by
  cases asked with
  | workingDirectory => exact ⟨trivial, rfl⟩
  | remove loaded => exact ⟨trivial, rfl⟩
  | _ => exact ⟨rfl, rfl⟩

/-- A system call of a process changes the table of no other process that exists. -/
theorem get?_serveCall (balanced : machine.service.tables.Balanced)
    (bounded : machine.service.Bounded) (apart : other ≠ pid)
    (found : machine.service.tables.processes.get? other = some table) :
    ((serveCall pid args call).outcome machine).2.service.tables.processes.get? other =
      some table := by
  have performed {request : Request} {decoded : Machine σ κ μ}
      {answer : Except Stop Reply} {service : Service σ κ}
      (asked : Decoding machine pid args call (.ok (some request) decoded))
      (done : (Service.perform request).outcome decoded.service = (answer, service)) :
      service.tables.processes.get? other = some table := by
    obtain ⟨made, tables⟩ := madeBy_of_decoding asked
    have after : service = decoded.service.next request := by rw [Service.next, done]
    rw [← tables] at balanced found
    rw [after]
    exact Service.get?_next_of_madeBy balanced made apart found
  have outcome := serving balanced bounded pid args call
  generalize (serveCall pid args call).outcome machine = result at outcome
  cases outcome with
  | identity => exact found
  | undecoded lost kept => exact kept ▸ found
  | readForbidden done => exact found
  | writeForbidden done => exact found
  | stopped asked done => exact performed asked done
  | answered asked done delivered exact => exact performed asked done
  | undelivered asked done refused stores => exact performed asked done

end Machine

namespace Service

variable {σ κ μ : Type} [Storage σ] [ByteDevice κ] [AddressSpace μ] {s : Service σ κ}

/-- Identifiers that a service chooses are fresh. As long as some identifier has no process, a
spawn, and a fork of a process that exists, come to an end, with the first identifier from the
counter on that had no process; a fork of an unknown process ends with the first try. In a run
with fewer tries than words no identifier is given out twice, and the process of one that was
given out earlier changes no table of one that was given out later. -/
theorem chosen_pids_fresh {outside : σ → σ → Prop} (reached : Reachable outside s)
    (small : s.tables.processes.size < wordLimit) :
    (s.stride ≤ s.tables.processes.size ∧
      (∀ count result, Tries createProcess count s result ↔
        count = s.stride + 1 ∧ result = spawn.run s) ∧
      ∀ pid after, spawn.run s = .ok pid after → s.Allotted pid after) ∧
    (∀ parent ∈ s.tables.processes,
      (∀ count result, Tries (forkProcess parent) count s result ↔
        count = s.stride + 1 ∧ result = (fork parent).run s) ∧
      ∀ pid after, (fork parent).run s = .ok pid after → s.Allotted pid after) ∧
    (∀ parent ∉ s.tables.processes,
      (∀ count result, Tries (forkProcess parent) count s result ↔
        count = 1 ∧ result = (fork parent).run s) ∧
      (fork parent).run s = .error (.refused .noSuchEntry) (s.withCounter s.pidCounter.next)) ∧
    ∀ run, s.triesAlong run < wordLimit → (s.allottedAlong run).Nodup ∧
      ∀ earlier later, [earlier, later].Sublist (s.allottedAlong run) →
        ∀ (memory : μ) (args : Arguments) (call : Call) (table : DescriptorTable),
          (s.through run).tables.processes.get? later = some table →
            ((Machine.serveCall earlier args call).outcome
              ⟨s.through run, memory⟩).2.service.tables.processes.get? later = some table := by
  have balanced := reached.balanced
  refine ⟨⟨(freshPid_spec small).1, ?_, ?_⟩, ?_, ?_, ?_⟩
  · exact fun _ _ => (tries_spawn small).iff
  · exact fun _ _ => allotted_of_spawn small
  · intro parent known
    exact ⟨fun _ _ => (tries_fork balanced small known).iff,
      fun _ _ => allotted_of_fork balanced small⟩
  · intro parent unknown
    obtain ⟨tries, run⟩ := tries_fork_unknown balanced unknown
    exact ⟨fun _ _ => tries.iff, run⟩
  · intro run few
    have distinct := nodup_allottedAlong balanced few
    refine ⟨distinct, ?_⟩
    intro earlier later order memory args call table found
    have apart : later ≠ earlier := by
      have pair := distinct.sublist order
      rintro rfl
      exact (List.nodup_cons.mp pair).1 List.mem_cons_self
    obtain ⟨balanced', bounded⟩ := sound_through balanced reached.bounded run
    exact Machine.get?_serveCall balanced' bounded apart found

/-- Identifiers 1 and 2 are in use when the counter comes to them. The identifier of a process
that has ended is not given out again, and nothing is done with it to the next process. -/
theorem chosen_pids_fresh_after_named :
    ∃ start : Service FileTree MemoryConsole,
      build ⟨4, 5⟩ FileTree.initial (.ofCapacity 4) = .ok start ∧
      (start.after [.createProcess ⟨1⟩, .createProcess ⟨2⟩]).tables.processes.size < wordLimit ∧
      (∃ after, spawn.run (start.after [.createProcess ⟨1⟩, .createProcess ⟨2⟩]) =
        .ok ⟨3⟩ after ∧
          (start.after [.createProcess ⟨1⟩, .createProcess ⟨2⟩]).Allotted ⟨3⟩ after) ∧
      ∃ table, ∀ (memory : MemoryBlock) (args : Arguments) (call : Call),
        ((Machine.serveCall ⟨3⟩ args call).outcome
          ⟨(start.after [.createProcess ⟨1⟩, .createProcess ⟨2⟩]).through
            [.request .spawn, .request (.endProcess ⟨3⟩), .request .spawn],
            memory⟩).2.service.tables.processes.get? ⟨4⟩ = some table := by
  have built : build ⟨4, 5⟩ FileTree.initial (MemoryConsole.ofCapacity 4) = .ok _ := rfl
  have reached : Reachable Eq _ := Reachable.built built
  have before := reached.after [.createProcess ⟨1⟩, .createProcess ⟨2⟩]
  obtain ⟨⟨_, _, spawned⟩, _, _, runs⟩ :=
    @chosen_pids_fresh _ _ MemoryBlock _ _ _ _ _ before (by decide)
  obtain ⟨_, apart⟩ :=
    runs [.request .spawn, .request (.endProcess ⟨3⟩), .request .spawn] (by decide)
  have fresh := spawned ⟨3⟩ _ rfl
  have kept memory args call := apart ⟨3⟩ ⟨4⟩ (by decide) memory args call _ rfl
  exact ⟨_, built, by decide, ⟨_, rfl, fresh⟩, _, kept⟩

end Service

end OpenFiles
