import OpenFiles.Proofs.Service.Exchanges
import OpenFiles.Proofs.Service.Runs
import OpenFiles.Proofs.UserSpace.Copies
import OpenFiles.Syscall.Dispatch

/-!
# No byte is lost at the boundary to user memory

A read system call takes bytes from a file or the console before it stores them in user
memory, and must not fail between the two. It does not: the buffer was checked before
anything was taken, the check after it is the same one, and what was taken fits. So
either everything that was taken is in the buffer, or nothing was taken. A write loads
the whole buffer first, so it has nothing to give back; what it answers is how much of the
buffer has gone out.
-/

namespace OpenFiles

namespace Machine

open OpenFiles.Action AddressSpace MemoryView

variable {σ κ μ α : Type} {machine : Machine σ κ μ} {pid : Pid} {args : Arguments}

theorem run_onService (action : Action (Service σ κ) α) (machine : Machine σ κ μ) :
    (onService action).run machine =
      match action.run machine.service with
      | .ok value service => .ok value ⟨service, machine.memory⟩
      | .error stop service => .error stop ⟨service, machine.memory⟩ := by
  cases result : action machine.service <;> simp only [onService, EStateM.run, zoom, result]

theorem run_onMemory (action : Action μ α) (machine : Machine σ κ μ) :
    (onMemory action).run machine =
      match action.run machine.memory with
      | .ok value memory => .ok value ⟨machine.service, memory⟩
      | .error stop memory => .error stop ⟨machine.service, memory⟩ := by
  cases result : action machine.memory <;> simp only [onMemory, EStateM.run, zoom, result]

/-- A count that fits in a word is answered exactly. -/
theorem toNat_ofNat_of_le {n : Nat} {word : UInt64} (within : n ≤ word.toNat) :
    (UInt64.ofNat n).toNat = n :=
  UInt64.toNat_ofNat_of_lt (Nat.lt_of_le_of_lt within word.toNat_lt_size)

variable [ConsoleView κ] [StorageView σ] [MemoryView μ]

def handle (pid : Pid) (args : Arguments) : Handle := ⟨pid, .ofRegister args.first⟩

/-- What a read system call may do. If it fails, nothing has happened to the service or to
user memory. If it succeeds, the bytes it counts were taken from what the descriptor refers
to and are now at the start of the buffer, and the rest of user memory is as it was. -/
inductive ReadServed (machine : Machine σ κ μ) (pid : Pid) (args : Arguments) :
    Except Stop UInt64 × Machine σ κ μ → Prop
  | failed {stop : Stop} {later : Machine σ κ μ}
      (service : machine.service.Untouched later.service) (memory : later.memory = machine.memory) :
      ReadServed machine pid args (.error stop, later)
  | delivered {count : UInt64} {data : Bytes} {later : Machine σ κ μ}
      (amount : count.toNat = data.length) (fits : data.length ≤ args.third.toNat)
      (taken : machine.service.Taken (handle pid args) data later.service)
      (stored : Stored machine.memory args.second.toNat data later.memory) :
      ReadServed machine pid args (.ok count, later)

theorem ReadServed.processes {result : Except Stop UInt64 × Machine σ κ μ}
    (served : ReadServed machine pid args result) :
    result.2.service.tables.processes = machine.service.tables.processes := by
  cases served with
  | failed service memory => exact service.processes
  | delivered amount fits taken stored => exact taken.processes

variable [Storage σ]

/-- What a write system call may do. If it fails, nothing has happened to the service. If
it succeeds, the bytes it counts are the first ones of the buffer, and they were handed to
what the descriptor refers to. User memory stays as it is in both cases. -/
inductive WriteServed (machine : Machine σ κ μ) (pid : Pid) (args : Arguments) :
    Except Stop UInt64 × Machine σ κ μ → Prop
  | failed {stop : Stop} {later : Machine σ κ μ}
      (service : machine.service.Untouched later.service) (memory : later.memory = machine.memory) :
      WriteServed machine pid args (.error stop, later)
  | accepted {count : UInt64} {buffer : Bytes} {later : Machine σ κ μ}
      (whole : buffer.length = args.third.toNat)
      (shown : Shows machine.memory args.second.toNat buffer)
      (within : count.toNat ≤ buffer.length)
      (sent : machine.service.Sent (handle pid args) (buffer.take count.toNat) later.service)
      (memory : later.memory = machine.memory) :
      WriteServed machine pid args (.ok count, later)

theorem WriteServed.processes {result : Except Stop UInt64 × Machine σ κ μ}
    (served : WriteServed machine pid args result) :
    result.2.service.tables.processes = machine.service.tables.processes := by
  cases served with
  | failed service memory => exact service.processes
  | accepted whole shown within sent memory => exact sent.processes

variable [LawfulStorage σ] [ByteDevice κ] [LawfulConsole κ]
variable [AddressSpace μ] [LawfulMemory μ]

theorem readServed (balanced : machine.service.tables.Balanced)
    (obliging : Obliging machine.memory) (pid : Pid) (args : Arguments) :
    ReadServed machine pid args ((serveRead pid args).outcome machine) := by
  obtain ⟨service, memory⟩ := machine
  rw [outcome_eq]
  simp only [serveRead, EStateM.run_bind, run_onService]
  have checked : Service.Checking service pid (.ofRegister args.first) .reading _ :=
    Service.checking balanced .reading
  generalize (Service.requireRights pid (.ofRegister args.first) .reading).run service = result
    at checked
  cases checked with
  | unresolved why => exact .failed (.refl service) rfl
  | forbidden given lacking => exact .failed (.refl service) rfl
  | allowed given covered =>
    simp only [run_onMemory]
    have required := UserSpace.requiring memory args.second.toNat args.third.toNat
    generalize (UserSpace.requireBuffer args.second.toNat args.third.toNat).run memory = result
      at required
    cases required with
    | refused => exact .failed (.refl service) rfl
    | usable usable =>
      simp only [Service.run_grantedBytes]
      by_cases large : service.allotment.bytes ≤ args.third.toNat
      · simp only [if_pos large]
        exact .failed (.refl service) rfl
      · simp only [if_neg large, EStateM.run_bind, run_onService]
        have read : Service.Reading service pid (.ofRegister args.first) args.third.toNat _ :=
          Service.reading balanced args.third.toNat
        generalize (Service.read pid (.ofRegister args.first) args.third.toNat).run service =
          result at read
        cases result with
        | error stop later => exact .failed read.untouched rfl
        | ok data later =>
          obtain ⟨fits, taken⟩ := read.taken
          obtain ⟨after, run, stored⟩ := UserSpace.run_storeBuffer obliging fits usable
          simp only [run_onMemory, run, EStateM.run_pure]
          exact .delivered (toNat_ofNat_of_le fits) fits taken stored

theorem writeServed (balanced : machine.service.tables.Balanced) (pid : Pid) (args : Arguments) :
    WriteServed machine pid args ((serveWrite pid args).outcome machine) := by
  obtain ⟨service, memory⟩ := machine
  rw [outcome_eq]
  simp only [serveWrite, EStateM.run_bind, run_onService]
  have checked : Service.Checking service pid (.ofRegister args.first) .writing _ :=
    Service.checking balanced .writing
  generalize (Service.requireRights pid (.ofRegister args.first) .writing).run service = result
    at checked
  cases checked with
  | unresolved why => exact .failed (.refl service) rfl
  | forbidden given lacking => exact .failed (.refl service) rfl
  | allowed given covered =>
    simp only [Service.run_grantedBytes, run_onMemory]
    have loaded :=
      UserSpace.loading memory args.second.toNat args.third.toNat service.allotment.bytes
    generalize (UserSpace.loadBuffer args.second.toNat args.third.toNat
      service.allotment.bytes).run memory = result at loaded
    cases loaded with
    | refused reason => exact .failed (.refl service) rfl
    | @loaded buffer whole shown =>
      dsimp only
      have written : Service.Writing service pid (.ofRegister args.first) buffer _ :=
        Service.writing balanced buffer
      generalize (Service.write pid (.ofRegister args.first) buffer).run service = result
        at written
      cases result with
      | error stop later => exact .failed written.untouched rfl
      | ok count later =>
        obtain ⟨within, sent⟩ := written.sent
        have amount : (UInt64.ofNat count).toNat = count :=
          toNat_ofNat_of_le (Nat.le_trans within (Nat.le_of_eq whole))
        simp only [EStateM.run_pure]
        rw [← amount] at within sent
        exact .accepted whole shown within sent rfl

/-- No byte is lost at the boundary to user memory. From every state that a service gets
into, for every process and all arguments: a read that succeeds has put exactly what it
took into the buffer, one that fails has taken nothing, and the same is true of a write
the other way round. Neither changes a descriptor table. The memory may refuse what it
likes, as long as it takes what it has permitted. -/
theorem bytes_conserved {outside : σ → σ → Prop}
    (reached : Service.Reachable outside machine.service) (obliging : Obliging machine.memory)
    (pid : Pid) (args : Arguments) :
    ReadServed machine pid args ((serveCall pid args .read).outcome machine) ∧
    WriteServed machine pid args ((serveCall pid args .write).outcome machine) ∧
    ((serveCall pid args .read).outcome machine).2.service.tables.processes =
      machine.service.tables.processes ∧
    ((serveCall pid args .write).outcome machine).2.service.tables.processes =
      machine.service.tables.processes := by
  have read := readServed reached.balanced obliging pid args
  have write := writeServed reached.balanced pid args
  exact ⟨read, write, read.processes, write.processes⟩

/-- A read of five bytes from a file that has three of them left. -/
theorem bytes_conserved_by_short_read :
    ∃ start : Service FileTree MemoryConsole,
      Service.build ⟨2, 5⟩ ([.createFile "/a" [7, 1, 2, 3]].foldl FileTree.after FileTree.initial)
        (.ofCapacity 4) = .ok start ∧
      ∃ later : Machine FileTree MemoryConsole MemoryBlock,
        ReadServed ⟨start.after [.createProcess ⟨1⟩, .openPath ⟨1⟩ "/a" (.ofBits 0) 0,
          .read ⟨1⟩ ⟨3⟩ 1], .ofSize 8⟩ ⟨1⟩ (.ofList [3, 0x40000002, 5]) (.ok 3, later) ∧
        later.memory.bytes = #[0, 0, 1, 2, 3, 0, 0, 0] := by
  have built : Service.build ⟨2, 5⟩
    ([.createFile "/a" [7, 1, 2, 3]].foldl FileTree.after FileTree.initial)
    (MemoryConsole.ofCapacity 4) = .ok _ := rfl
  have reached : Service.Reachable (fun _ _ => False) _ := Service.Reachable.built built
  have later := reached.after [.createProcess ⟨1⟩, .openPath ⟨1⟩ "/a" (.ofBits 0) 0,
    .read ⟨1⟩ ⟨3⟩ 1]
  have served : ReadServed ⟨_, MemoryBlock.ofSize 8⟩ ⟨1⟩ (.ofList [3, 0x40000002, 5]) _ :=
    (bytes_conserved later (MemoryBlock.obliging _) _ _).1
  refine ⟨_, built, _, served, ?_⟩
  decide +kernel

end Machine

end OpenFiles
