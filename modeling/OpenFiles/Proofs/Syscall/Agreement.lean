import OpenFiles.Proofs.Syscall.Answers
import OpenFiles.UserSpace.Guarded
import OpenFiles.UserSpace.MemoryBlock

/-!
# System calls agree with the service

For every frame of registers, the kernel state and the answer after a system call are those of the
operation of the service on the decoded arguments. `Serving` says so call by call, with the one
exception there is: what a read or the question for the working directory has to store in user
memory may be refused there, and then the refusal is the answer.

`Returned` says what the program finds in its registers. It reads its answer back from two
of them, and no other one has changed.
-/

namespace OpenFiles

/-- What a frame is returned with, for an answer of a call. -/
inductive Returned (frame : Registers) : Except Stop UInt64 → Except Stop Registers → Prop
  | value {word : UInt64} {after : Registers}
      (others : after = { frame with rax := after.rax, rdx := after.rdx }) (status : after.rax = 0)
      (result : after.rdx = word) (back : after.answer = .ok (.ok word)) :
      Returned frame (.ok word) (.ok after)
  | refusal {reason : Error} {after : Registers}
      (others : after = { frame with rax := after.rax, rdx := after.rdx })
      (nonzero : after.rax ≠ 0) (status : after.rax.toNat = reason.number)
      (result : after.rdx.toNat = wordLimit - 1)
      (back : after.answer =
        .ok (.error (if reason = .badAccessMode then .badDescriptor else reason))) :
      Returned frame (.error (.refused reason)) (.ok after)
  | fault {fault : Fault} : Returned frame (.error (.faulted fault)) (.error (.faulted fault))

/-- Every refusal is returned as an error number that reads as the refusal again. -/
theorem returned_refusal (frame : Registers) (reason : Error) :
    Returned frame (.error (.refused reason)) (.ok (frame.withAnswer (.error reason))) := by
  have small : reason.number < 2 ^ 64 := by cases reason <;> decide
  have status : (UInt64.ofNat reason.number).toNat = reason.number :=
    UInt64.toNat_ofNat_of_lt' small
  refine .refusal rfl ?_ status rfl ?_
  · intro zero
    have none : reason.number = 0 := by
      rw [← status]
      exact congrArg UInt64.toNat zero
    exact absurd none (Nat.ne_of_gt reason.number_pos)
  · rw [Registers.answer_withAnswer_error]
    cases reason <;> rfl

namespace Machine

open OpenFiles.Action

variable {σ κ μ : Type} [Storage σ] [ByteDevice κ] [AddressSpace μ]
variable {machine decoded : Machine σ κ μ} {pid : Pid} {args : Arguments} {call : Call}
variable {request : Request}

inductive Serving (machine : Machine σ κ μ) (pid : Pid) (args : Arguments) :
    Call → Except Stop UInt64 × Machine σ κ μ → Prop
  | identity : Serving machine pid args .getPid (.ok pid.number, machine)
  | undecoded {call : Call} {reason : Error} {later : Machine σ κ μ}
      (lost : Decoding machine pid args call (.error (.refused reason) later))
      (kept : later.service = machine.service) :
      Serving machine pid args call (.error (.refused reason), later)
  | readForbidden {reason : Error}
      (performed : (Service.perform (.read pid (.ofRegister args.first) args.third.toNat)).outcome
        machine.service = (.error (.refused reason), machine.service)) :
      Serving machine pid args .read (.error (.refused reason), machine)
  | writeForbidden {reason : Error}
      (performed : ∀ data, (Service.perform (.write pid (.ofRegister args.first) data)).outcome
        machine.service = (.error (.refused reason), machine.service)) :
      Serving machine pid args .write (.error (.refused reason), machine)
  | stopped {call : Call} {request : Request} {decoded : Machine σ κ μ} {stop : Stop}
      {service : Service σ κ}
      (asked : Decoding machine pid args call (.ok (some request) decoded))
      (performed : (Service.perform request).outcome decoded.service = (.error stop, service)) :
      Serving machine pid args call (.error stop, ⟨service, decoded.memory⟩)
  | answered {call : Call} {request : Request} {decoded : Machine σ κ μ} {reply : Reply}
      {service : Service σ κ} {word : UInt64} {memory : μ}
      (asked : Decoding machine pid args call (.ok (some request) decoded))
      (performed : (Service.perform request).outcome decoded.service = (.ok reply, service))
      (delivered : (deliver args reply).outcome ⟨service, decoded.memory⟩ =
        (.ok word, ⟨service, memory⟩))
      (exact : (word.toNat : Int) = value args reply) :
      Serving machine pid args call (.ok word, ⟨service, memory⟩)
  | undelivered {call : Call} {request : Request} {decoded : Machine σ κ μ} {reply : Reply}
      {service : Service σ κ} {reason : Error} {memory : μ}
      (asked : Decoding machine pid args call (.ok (some request) decoded))
      (performed : (Service.perform request).outcome decoded.service = (.ok reply, service))
      (refused : (deliver args reply).outcome ⟨service, decoded.memory⟩ =
        (.error (.refused reason), ⟨service, memory⟩))
      (stores : call = .read ∨ call = .workingDirectory ∧ service = machine.service) :
      Serving machine pid args call (.error (.refused reason), ⟨service, memory⟩)

/-- A request that is decoded is performed, and the reply delivered. -/
theorem serving_of_asked (balanced : machine.service.tables.Balanced)
    (bounded : machine.service.Bounded)
    (asked : Decoding machine pid args call (.ok (some request) decoded)) :
    Serving machine pid args call ((carryOut pid args (some request)).outcome decoded) := by
  rw [outcome_eq, carryOut, EStateM.run_bind, run_onService]
  cases performed : (Service.perform request).run decoded.service with
  | error stop service =>
      refine .stopped asked ?_
      rw [outcome_eq, performed]
  | ok reply service =>
      have outcome : (Service.perform request).outcome decoded.service = (.ok reply, service) := by
        rw [outcome_eq, performed]
      have replied := answers balanced bounded asked performed
      obtain ⟨word, memory, run, exact⟩ | ⟨⟨reason, memory, run⟩, stores⟩ :=
        deliver_cases bounded.small replied ⟨service, decoded.memory⟩ args
      · dsimp only
        rw [run]
        refine .answered asked outcome ?_ exact
        rw [outcome_eq, run]
      · dsimp only
        rw [run]
        refine .undelivered asked outcome ?_ ?_
        · rw [outcome_eq, run]
        · refine stores.imp_right ?_
          rintro ⟨rfl, same⟩
          cases asked with
          | workingDirectory => exact ⟨rfl, same⟩

theorem serving (balanced : machine.service.tables.Balanced) (bounded : machine.service.Bounded)
    (pid : Pid) (args : Arguments) (call : Call) :
    Serving machine pid args call ((serveCall pid args call).outcome machine) := by
  have decoded := decoding machine pid args call
  have stopped {stop : Stop} {later : Machine σ κ μ}
      (run : (decode pid args call).run machine = .error stop later) :
      (serveCall pid args call).outcome machine = (.error stop, later) := by
    rw [outcome_eq, serveCall_eq, EStateM.run_bind, run]
  cases run : (decode pid args call).run machine with
  | ok asked later =>
      have whole : (serveCall pid args call).outcome machine =
          (carryOut pid args asked).outcome later := by
        rw [outcome_eq, serveCall_eq, EStateM.run_bind, run, outcome_eq]
      rw [run] at decoded
      rw [whole]
      cases asked with
      | some request => exact serving_of_asked balanced bounded decoded
      | none =>
        cases decoded with
        | getPid => exact .identity
  | error stop later =>
      rw [stopped run]
      rw [run] at decoded
      cases decoded with
      | noPath lost => exact .undecoded (.noPath lost) rfl
      | noFlags loaded invalid => exact .undecoded (.noFlags loaded invalid) rfl
      | noRoom allowed unusable => exact .undecoded (.noRoom allowed unusable) rfl
      | tooMuch allowed usable large => exact .undecoded (.tooMuch allowed usable large) rfl
      | noData allowed lost => exact .undecoded (.noData allowed lost) rfl
      | noName lost => exact .undecoded (.noName lost) rfl
      | forbidden asks lacking =>
        cases call with
        | read =>
          cases asks
          obtain ⟨reason, rfl, refused⟩ :=
            Service.run_read_of_lacking balanced lacking args.third.toNat
          refine .readForbidden ?_
          rw [outcome_eq, Service.perform, EStateM.run_bind, refused]
        | write =>
          cases asks
          obtain ⟨reason, rfl, _⟩ := Service.run_write_of_lacking balanced lacking []
          refine .writeForbidden fun data => ?_
          obtain ⟨_, same, refused⟩ := Service.run_write_of_lacking balanced lacking data
          cases same
          rw [outcome_eq, Service.perform, EStateM.run_bind, refused]
        | _ => cases asks

/-- System calls agree with the service. In every state that a service gets into, for every
process, every memory and all fifteen registers: a frame returns with the answer of its call in
two registers and the others as they were; a number without a call is answered with error 38
and changes nothing; any other call is served by the operation of the service on the
decoded arguments. A register that reaches a slot is the number of the slot, and below the size
of the table. -/
theorem agrees_with_service {outside : σ → σ → Prop}
    (reached : Service.Reachable outside machine.service) (pid : Pid) (frame : Registers) :
    let served := (serve pid frame).outcome machine
    ∃ result : Except Stop UInt64,
      Returned frame result served.1 ∧
      (frame.rax.toNat = 0 ∨ 11 < frame.rax.toNat →
        result = .error (.refused .noSuchSyscall) ∧
          served = (.ok { frame with rax := 38, rdx := Registers.noResult }, machine)) ∧
      (∀ call : Call, frame.rax.toNat = call.number →
        Serving machine pid frame.arguments call (result, served.2)) ∧
      ∀ owner table word slot, machine.service.tables.processes.get? owner = some table →
        table.slot? (.ofRegister word) = some slot →
        word.toNat < machine.service.capacities.processSlots ∧
          (Descriptor.ofRegister word).number = word.toNat := by
  intro served
  have outcome : served = _ := outcome_serve machine pid frame
  have split : (respond pid frame).outcome machine = _ := outcome_eq _ machine
  refine ⟨((respond pid frame).outcome machine).1, ?_, ?_, ?_, ?_⟩
  · rw [outcome, split]
    cases (respond pid frame).run machine with
    | ok word after => exact .value rfl rfl rfl rfl
    | error stop after =>
      cases stop with
      | refused reason => exact returned_refusal frame reason
      | faulted fault => exact .fault
  · intro unknown
    have none : (respond pid frame : Action (Machine σ κ μ) UInt64) = refuse .noSuchSyscall := by
      rw [respond, Registers.callNumber, Call.ofNumber?_eq_none unknown]
    rw [outcome, none]
    exact ⟨rfl, rfl⟩
  · intro call number
    have known : respond pid frame = (serveCall pid frame.arguments call :
        Action (Machine σ κ μ) UInt64) := by
      rw [respond, Registers.callNumber, number, Call.ofNumber?_number]
    have state : served.2 = ((respond pid frame).outcome machine).2 := by
      rw [outcome, split]
      cases (respond pid frame).run machine with
      | ok word after => rfl
      | error stop after => cases stop <;> rfl
    rw [state, known]
    exact serving reached.balanced reached.bounded pid frame.arguments call
  · intro owner table word slot found reaches
    exact Service.word_of_slot? reached.bounded found reaches

/-- A register that holds descriptor 3 and a bit above the 32 lower ones closes nothing. -/
theorem agrees_on_wide_descriptor :
    ∃ start : Service FileTree MemoryConsole,
      Service.build ⟨2, 5⟩ ([.createFile "/a" [7, 1, 2]].foldl FileTree.after FileTree.initial)
        (.ofCapacity 4) = .ok start ∧
      let machine : Machine FileTree MemoryConsole MemoryBlock :=
        ⟨start.after [.createProcess ⟨1⟩, .openPath ⟨1⟩ "/a" (.ofBits 0) 0], .ofSize 8⟩
      let frame : Registers := { rax := 5, rdi := 0x100000003, r15 := 77 }
      let served := (serve ⟨1⟩ frame).outcome machine
      ∃ result, Returned frame result served.1 ∧
        Serving machine ⟨1⟩ frame.arguments .close (result, served.2) ∧
        served.1 = .ok { frame with rax := 9, rdx := Registers.noResult } ∧
        served.2.service.tables = machine.service.tables := by
  have built : Service.build ⟨2, 5⟩
    ([.createFile "/a" [7, 1, 2]].foldl FileTree.after FileTree.initial)
    (MemoryConsole.ofCapacity 4) = .ok _ := rfl
  have reached : Service.Reachable (fun _ _ => False) _ := Service.Reachable.built built
  have later : Service.Reachable _ (Machine.mk _ (MemoryBlock.ofSize 8)).service :=
    reached.after [.createProcess ⟨1⟩, .openPath ⟨1⟩ "/a" (.ofBits 0) 0]
  obtain ⟨result, returned, _, served, _⟩ :=
    agrees_with_service later ⟨1⟩ { rax := 5, rdi := 0x100000003, r15 := 77 }
  refine ⟨_, built, result, returned, served .close rfl, ?_, ?_⟩
  · decide +kernel
  · decide +kernel

/-- A read that succeeds in the service, of bytes that user memory then does not take, though
it has permitted the range: the program gets an error instead of the three bytes, and the cursor
has moved past them. -/
theorem read_fails_after_service :
    ∃ start : Service FileTree MemoryConsole,
      Service.build ⟨2, 5⟩ ([.createFile "/f" [97, 98, 99]].foldl FileTree.after FileTree.initial)
        (.ofCapacity 4) = .ok start ∧
      let machine : Machine FileTree MemoryConsole (Guarded MemoryBlock) :=
        ⟨start.after [.createProcess ⟨1⟩, .openPath ⟨1⟩ "/f" (.ofBits 0) 0],
          ⟨.ofSize 8, { failStore := some .inputOutput }⟩⟩
      let frame : Registers := { rax := 2, rdi := 3, rsi := 0x40000002, rdx := 3 }
      let performed := (Service.perform (.read ⟨1⟩ ⟨3⟩ 3)).outcome machine.service
      let served := (serve ⟨1⟩ frame).outcome machine
      performed.1 = .ok (.data [97, 98, 99]) ∧
        served.1 = .ok { frame with rax := 5, rdx := Registers.noResult } ∧
        served.2.service.tables = performed.2.tables ∧
        served.2.service.tables ≠ machine.service.tables := by
  have built : Service.build ⟨2, 5⟩
    ([.createFile "/f" [97, 98, 99]].foldl FileTree.after FileTree.initial)
    (MemoryConsole.ofCapacity 4) = .ok _ := rfl
  refine ⟨_, built, ?_⟩
  decide +kernel

end Machine

end OpenFiles
