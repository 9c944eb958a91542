import OpenFiles.Proofs.Syscall.Stages
import OpenFiles.Proofs.UserSpace.Refusals

/-!
# What system calls are decoded to

`Decoding` says of each call which request its arguments stand for, and how decoding may be
refused before there is one. A call that is refused here has changed nothing in the service.

Only what comes before the request is here: what the service makes of the request is not asked.
-/

namespace OpenFiles

namespace Machine

open OpenFiles.Action

variable {σ κ μ : Type} {machine : Machine σ κ μ} {pid : Pid} {args : Arguments} {call : Call}

/-- The rights that a transfer asks for before it turns to user memory. -/
def askedRights? : Call → Option Rights
  | .read => some .reading
  | .write => some .writing
  | _ => none

/-- Asking about rights changes nothing. -/
theorem run_requireRights (s : Service σ κ) (pid : Pid) (fd : Descriptor) (asked : Rights) :
    (Service.requireRights pid fd asked).run s = .ok () s ∨
      ∃ stop, (Service.requireRights pid fd asked).run s = .error stop s := by
  have given (rights : Rights) :
      ((if rights.cover asked = true then pure () else refuse .badAccessMode :
        Action (Service σ κ) Unit).run s) = .ok () s ∨
      ∃ stop, ((if rights.cover asked = true then pure () else refuse .badAccessMode :
        Action (Service σ κ) Unit).run s) = .error stop s := by
    split
    · exact .inl rfl
    · exact .inr ⟨_, rfl⟩
  rw [Service.requireRights]
  obtain ⟨reason, _, run⟩ | ⟨contents, _, run⟩ := Service.run_slot_cases s pid fd
  · rw [EStateM.run_bind, run]
    exact .inr ⟨_, rfl⟩
  · rw [EStateM.run_bind, run]
    cases contents with
    | stream stream => exact given stream.rights
    | shared id =>
      simp only [EStateM.run_bind, Service.run_group]
      cases s.tables.groups.group? id with
      | none => exact .inr ⟨_, rfl⟩
      | some group => exact given group.rights

/-- An access to user memory gets through or is refused, and the service does not change. -/
theorem run_onMemory_cases {α : Type} {action : Action μ α} (faultless : Faultless action)
    (machine : Machine σ κ μ) :
    (∃ value memory, action.run machine.memory = .ok value memory ∧
      (onMemory action).run machine = .ok value ⟨machine.service, memory⟩) ∨
    ∃ reason memory, action.run machine.memory = .error (.refused reason) memory ∧
      (onMemory action).run machine = .error (.refused reason) ⟨machine.service, memory⟩ := by
  rw [run_onMemory]
  obtain ⟨value, memory, run⟩ | ⟨reason, memory, run⟩ := faultless.ok_or_refused machine.memory
  · rw [run]
    exact .inl ⟨value, memory, rfl, rfl⟩
  · rw [run]
    exact .inr ⟨reason, memory, rfl, rfl⟩

variable [AddressSpace μ]

inductive Decoding (machine : Machine σ κ μ) (pid : Pid) (args : Arguments) :
    Call → EStateM.Result Stop (Machine σ κ μ) (Option Request) → Prop
  | openPath {path : String} {flags : OpenFlags} {memory : μ}
      (loaded : (UserSpace.loadText pathMax args.first.toNat).run machine.memory = .ok path memory)
      (parsed : OpenFlags.parse args.second.toNat = .ok flags) :
      Decoding machine pid args .openPath
        (.ok (some (.openPath pid path flags args.third.toUInt32)) ⟨machine.service, memory⟩)
  | read {memory : μ}
      (allowed : (Service.requireRights pid (.ofRegister args.first) .reading).run
        machine.service = .ok () machine.service)
      (usable : (UserSpace.requireBuffer args.second.toNat args.third.toNat).run
        machine.memory = .ok () memory)
      (moderate : args.third.toNat < machine.service.allotment.bytes) :
      Decoding machine pid args .read
        (.ok (some (.read pid (.ofRegister args.first) args.third.toNat))
          ⟨machine.service, memory⟩)
  | write {data : Bytes} {memory : μ}
      (allowed : (Service.requireRights pid (.ofRegister args.first) .writing).run
        machine.service = .ok () machine.service)
      (loaded : (UserSpace.loadBuffer args.second.toNat args.third.toNat
        machine.service.allotment.bytes).run machine.memory = .ok data memory) :
      Decoding machine pid args .write
        (.ok (some (.write pid (.ofRegister args.first) data)) ⟨machine.service, memory⟩)
  | seek : Decoding machine pid args .seek
      (.ok (some (.seek pid (.ofRegister args.first) (signedWord args.second) args.third.toNat))
        machine)
  | close : Decoding machine pid args .close
      (.ok (some (.close pid (.ofRegister args.first))) machine)
  | duplicate : Decoding machine pid args .duplicate
      (.ok (some (.duplicate pid (.ofRegister args.first) (.ofRegister args.second))) machine)
  | workingDirectory : Decoding machine pid args .workingDirectory
      (.ok (some .workingDirectory) machine)
  | remove {path : String} {memory : μ}
      (loaded : (UserSpace.loadText nameMax args.first.toNat).run machine.memory =
        .ok path memory) :
      Decoding machine pid args .remove (.ok (some (.remove path)) ⟨machine.service, memory⟩)
  | fork : Decoding machine pid args .fork (.ok (some (.fork pid)) machine)
  | getPid : Decoding machine pid args .getPid (.ok none machine)
  | exit : Decoding machine pid args .exit
      (.ok (some (.endProcess pid)) ⟨machine.service.withJournal
        (machine.service.journal.note (.exits pid (signedWord args.first))), machine.memory⟩)
  | noPath {reason : Error} {memory : μ}
      (lost : (UserSpace.loadText pathMax args.first.toNat).run machine.memory =
        .error (.refused reason) memory) :
      Decoding machine pid args .openPath (.error (.refused reason) ⟨machine.service, memory⟩)
  | noFlags {path : String} {reason : Error} {memory : μ}
      (loaded : (UserSpace.loadText pathMax args.first.toNat).run machine.memory = .ok path memory)
      (invalid : OpenFlags.parse args.second.toNat = .error reason) :
      Decoding machine pid args .openPath (.error (.refused reason) ⟨machine.service, memory⟩)
  | forbidden {call : Call} {asked : Rights} {stop : Stop} (asks : askedRights? call = some asked)
      (lacking : (Service.requireRights pid (.ofRegister args.first) asked).run machine.service =
        .error stop machine.service) :
      Decoding machine pid args call (.error stop machine)
  | noRoom {reason : Error} {memory : μ}
      (allowed : (Service.requireRights pid (.ofRegister args.first) .reading).run
        machine.service = .ok () machine.service)
      (unusable : (UserSpace.requireBuffer args.second.toNat args.third.toNat).run
        machine.memory = .error (.refused reason) memory) :
      Decoding machine pid args .read (.error (.refused reason) ⟨machine.service, memory⟩)
  | tooMuch {memory : μ}
      (allowed : (Service.requireRights pid (.ofRegister args.first) .reading).run
        machine.service = .ok () machine.service)
      (usable : (UserSpace.requireBuffer args.second.toNat args.third.toNat).run
        machine.memory = .ok () memory)
      (large : machine.service.allotment.bytes ≤ args.third.toNat) :
      Decoding machine pid args .read (.error (.refused .noMemory) ⟨machine.service, memory⟩)
  | noData {reason : Error} {memory : μ}
      (allowed : (Service.requireRights pid (.ofRegister args.first) .writing).run
        machine.service = .ok () machine.service)
      (lost : (UserSpace.loadBuffer args.second.toNat args.third.toNat
        machine.service.allotment.bytes).run machine.memory = .error (.refused reason) memory) :
      Decoding machine pid args .write (.error (.refused reason) ⟨machine.service, memory⟩)
  | noName {reason : Error} {memory : μ}
      (lost : (UserSpace.loadText nameMax args.first.toNat).run machine.memory =
        .error (.refused reason) memory) :
      Decoding machine pid args .remove
        (.error (.refused .operationNotPermitted) ⟨machine.service, memory⟩)

theorem decoding (machine : Machine σ κ μ) (pid : Pid) (args : Arguments) (call : Call) :
    Decoding machine pid args call ((decode pid args call).run machine) := by
  cases call with
  | openPath =>
      rw [decode, EStateM.run_bind]
      obtain ⟨path, memory, loaded, run⟩ | ⟨reason, memory, lost, run⟩ :=
        run_onMemory_cases (UserSpace.faultless_loadText pathMax args.first.toNat) machine
      · rw [run]
        dsimp only
        cases parsed : OpenFlags.parse args.second.toNat with
        | ok flags => exact .openPath loaded parsed
        | error reason => exact .noFlags loaded parsed
      · rw [run]
        exact .noPath lost
  | read =>
      rw [decode, EStateM.run_bind, run_onService]
      obtain allowed | ⟨stop, lacking⟩ :=
        run_requireRights machine.service pid (.ofRegister args.first) .reading
      · rw [allowed]
        dsimp only
        rw [EStateM.run_bind]
        obtain ⟨_, memory, usable, run⟩ | ⟨reason, memory, unusable, run⟩ := run_onMemory_cases
          (UserSpace.faultless_requireBuffer args.second.toNat args.third.toNat) machine
        · rw [run]
          simp only [EStateM.run_bind, run_onService, Service.run_grantedBytes]
          by_cases large : machine.service.allotment.bytes ≤ args.third.toNat
          · rw [if_pos large]
            exact .tooMuch allowed usable large
          · rw [if_neg large]
            exact .read allowed usable (Nat.lt_of_not_le large)
        · rw [run]
          exact .noRoom allowed unusable
      · rw [lacking]
        exact .forbidden rfl lacking
  | write =>
      rw [decode, EStateM.run_bind, run_onService]
      obtain allowed | ⟨stop, lacking⟩ :=
        run_requireRights machine.service pid (.ofRegister args.first) .writing
      · rw [allowed]
        simp only [EStateM.run_bind, run_onService, Service.run_grantedBytes]
        obtain ⟨data, memory, loaded, run⟩ | ⟨reason, memory, lost, run⟩ := run_onMemory_cases
          (UserSpace.faultless_loadBuffer args.second.toNat args.third.toNat
            machine.service.allotment.bytes) machine
        · rw [run]
          exact .write allowed loaded
        · rw [run]
          exact .noData allowed lost
      · rw [lacking]
        exact .forbidden rfl lacking
  | remove =>
      rw [decode, EStateM.run_bind, Service.run_attempt]
      obtain ⟨path, memory, loaded, run⟩ | ⟨reason, memory, lost, run⟩ :=
        run_onMemory_cases (UserSpace.faultless_loadText nameMax args.first.toNat) machine
      · rw [run]
        exact .remove loaded
      · rw [run]
        exact .noName lost
  | seek => exact .seek
  | close => exact .close
  | duplicate => exact .duplicate
  | workingDirectory => exact .workingDirectory
  | fork => exact .fork
  | getPid => exact .getPid
  | exit => exact .exit

variable [Storage σ] [ByteDevice κ] {α : Type} {s after : Service σ κ}

omit [AddressSpace μ] in
/-- A reply is made of the answer of the operation that was run for it. -/
theorem eq_of_perform {request : Request} {action : Action (Service σ κ) α} {answer : Reply}
    (reply : α → Reply)
    (performs : Service.perform request = action >>= fun value => pure (reply value))
    (performed : (Service.perform request).run s = .ok answer after) :
    ∃ value, action.run s = .ok value after ∧ answer = reply value := by
  rw [performs] at performed
  obtain ⟨value, middle, run, made⟩ := ok_of_bind performed
  cases made
  exact ⟨value, run, rfl⟩

end Machine

end OpenFiles
