import OpenFiles.Proofs.Syscall.Decoding
import OpenFiles.Proofs.UserSpace.Forgetting

/-!
# User memory is touched only where it may be

The kernel reaches user memory while a call is decoded and while its reply is delivered.
`accesses` lists the ranges that a system call comes to, in order, from the frame, the service
and what the memory answers. The record of the memory is exactly theirs: no call copies
a byte on the side, and none goes on after a range was refused.
-/

namespace OpenFiles

namespace Machine

open OpenFiles.Action UserSpace

variable {σ κ μ α β : Type} {pid : Pid} {args : Arguments}

def plain (machine : Machine σ κ (Recorded μ)) : Machine σ κ μ :=
  ⟨machine.service, machine.memory.space⟩

theorem through_onService (action : Action (Service σ κ) α) :
    Through plain (onService action : Action (Machine σ κ (Recorded μ)) α) (onService action) := by
  intro machine
  have same : machine.plain.service = machine.service := rfl
  rw [run_onService, run_onService, same]
  cases action.run machine.service with
  | ok value service => rfl
  | error stop service => rfl

theorem through_onMemory {action : Action (Recorded μ) α} {action' : Action μ α}
    (through : Through Recorded.space action action') :
    Through plain (onMemory action : Action (Machine σ κ (Recorded μ)) α) (onMemory action') := by
  intro machine
  have same : machine.plain.memory = machine.memory.space := rfl
  rw [run_onMemory, run_onMemory, same, ← through machine.memory]
  cases action.run machine.memory with
  | ok value memory => rfl
  | error stop memory => rfl

theorem makes_onService (action : Action (Service σ κ) α) (reason : Error)
    (machine : Machine σ κ (Recorded μ)) :
    Makes Machine.memory reason (onService action) machine [] := by
  refine makes_nothing ?_
  rw [run_onService]
  cases action.run machine.service with
  | ok value service => rfl
  | error stop service => rfl

theorem makes_onMemory {action : Action (Recorded μ) α} {memory : Recorded μ}
    {reason : Error} {accesses : List Access} (service : Service σ κ)
    (makes : Makes id reason action memory accesses) :
    Makes Machine.memory reason (onMemory action) ⟨service, memory⟩ accesses := by
  obtain ⟨record, proper, refused⟩ := makes
  have record : (stateOf (action.run memory)).record = memory.record ++ _ := record
  refine ⟨?_, proper, ?_⟩
  · rw [← record, run_onMemory]
    cases action.run memory with
    | ok value memory => rfl
    | error stop memory => rfl
  · intro access member notGranted
    obtain ⟨after, stopped⟩ := refused access member notGranted
    rw [run_onMemory, stopped]
    exact ⟨_, rfl⟩

/-- What follows an operation of the service comes to user memory only if the operation gets
through. -/
theorem makes_onService_bind {action : Action (Service σ κ) α}
    {next : α → Action (Machine σ κ (Recorded μ)) β} {reason : Error}
    {machine : Machine σ κ (Recorded μ)} {accesses : List Access}
    (stops : ∀ stop service, action.run machine.service = .error stop service → accesses = [])
    (goes : ∀ value service, action.run machine.service = .ok value service →
      Makes Machine.memory reason (next value) ⟨service, machine.memory⟩ accesses) :
    Makes Machine.memory reason (onService action >>= next) machine accesses := by
  have first := makes_onService action reason machine
  have run := run_onService action machine
  cases result : action.run machine.service with
  | error stop service =>
      rw [result] at run
      rw [stops stop service result]
      exact first.bind_error run
  | ok value service =>
      rw [result] at run
      exact first.bind_ok run (goes value service result)

variable [AddressSpace μ]

def decodeAccesses (machine : Machine σ κ (Recorded μ)) (pid : Pid)
    (args : Arguments) : Call → List Access
  | .openPath => textAccesses pathMax args.first.toNat machine.memory
  | .remove => textAccesses nameMax args.first.toNat machine.memory
  | .read =>
    match (Service.requireRights pid (.ofRegister args.first) .reading).run machine.service with
    | .ok _ _ => roomAccesses args.second.toNat args.third.toNat machine.memory
    | .error _ _ => []
  | .write =>
    match (Service.requireRights pid (.ofRegister args.first) .writing).run machine.service with
    | .ok _ service =>
      bufferAccesses args.second.toNat args.third.toNat service.allotment.bytes machine.memory
    | .error _ _ => []
  | _ => []

def replyAccesses (memory : Recorded μ) (args : Arguments) : Reply → List Access
  | .data bytes => depositAccesses args.second.toNat args.third.toNat bytes memory
  | .text text => depositAccesses args.first.toNat args.second.toNat text.toUTF8.toList memory
  | _ => []

/-- What is delivered is stored in the buffer of the arguments and nowhere else. -/
theorem makes_deliver (machine : Machine σ κ (Recorded μ)) (args : Arguments) (reply : Reply) :
    Makes Machine.memory .badAddress (deliver args reply) machine
      (replyAccesses machine.memory args reply) := by
  cases reply with
  | data bytes =>
    exact (makes_onMemory machine.service (makes_storeBuffer _ _ _ _)).bind_nothing fun _ _ _ => rfl
  | text text =>
    exact (makes_onMemory machine.service (makes_storeBuffer _ _ _ _)).bind_nothing fun _ _ _ => rfl
  | _ => exact makes_nothing rfl

/-- The error that reports a refused range: a removal hides why it fails. -/
def refusal : Call → Error
  | .remove => .operationNotPermitted
  | _ => .badAddress

theorem makes_decode (machine : Machine σ κ (Recorded μ)) (pid : Pid) (args : Arguments)
    (call : Call) :
    Makes Machine.memory (refusal call) (decode pid args call) machine
      (decodeAccesses machine pid args call) := by
  cases call with
  | openPath =>
      have loaded := makes_loadText pathMax args.first.toNat machine.memory
      refine (makes_onMemory machine.service loaded).bind_nothing ?_
      intro path after _
      cases OpenFlags.parse args.second.toNat with
      | ok flags => rfl
      | error reason => rfl
  | read =>
      refine makes_onService_bind (fun stop service denied => ?_) fun _ service allowed => ?_
      · rw [decodeAccesses, denied]
      · rw [decodeAccesses, allowed]
        have room := makes_requireBuffer machine.memory args.second.toNat args.third.toNat
        refine (makes_onMemory service room).bind_nothing ?_
        intro _ after _
        rw [EStateM.run_bind, run_onService, Service.run_grantedBytes]
        dsimp only
        split <;> rfl
  | write =>
      refine makes_onService_bind (fun stop service denied => ?_) fun _ service allowed => ?_
      · rw [decodeAccesses, denied]
      · rw [decodeAccesses, allowed]
        refine makes_onService_bind (fun _ _ stopped => nomatch stopped) fun granted _ known => ?_
        cases known
        have loaded := makes_loadBuffer machine.memory args.second.toNat args.third.toNat
          service.allotment.bytes
        exact (makes_onMemory service loaded).bind_nothing fun _ _ _ => rfl
  | remove =>
      have loaded := makes_loadText nameMax args.first.toNat machine.memory
      exact (makes_onMemory machine.service loaded).hidden (fun _ => rfl) fun _ _ => rfl
  | exit => exact makes_nothing rfl
  | _ => exact makes_nothing rfl

/-- Every call but a removal reports a refused range as such. -/
theorem refusal_eq {call : Call} (other : call ≠ .remove) : refusal call = .badAddress := by
  cases call <;> first | rfl | exact absurd rfl other

/-! ### Serving without a record -/

theorem through_decode (pid : Pid) (args : Arguments) (call : Call) :
    Through plain (decode pid args call : Action (Machine σ κ (Recorded μ)) _)
      (decode pid args call) := by
  cases call with
  | openPath =>
      refine (through_onMemory (through_loadText _ _)).bind fun path => ?_
      exact (through_orRefuse _).bind fun flags => through_pure _
  | read =>
      refine (through_onService _).bind fun _ => ?_
      refine (through_onMemory (through_requireBuffer _ _)).bind fun _ => ?_
      refine (through_onService _).bind fun granted => ?_
      split
      · exact through_refuse .noMemory
      · exact through_pure _
  | write =>
      refine (through_onService _).bind fun _ => ?_
      refine (through_onService _).bind fun granted => ?_
      exact (through_onMemory (through_loadBuffer _ _ granted)).bind fun data => through_pure _
  | remove =>
      refine (through_onMemory (through_loadText _ _)).attempt.bind fun answer => ?_
      cases answer with
      | error reason => exact through_refuse .operationNotPermitted
      | ok path => exact through_pure _
  | exit => exact (through_onService _).bind fun _ => through_pure _
  | _ => exact through_pure _

theorem through_deliver (args : Arguments) (reply : Reply) :
    Through plain (deliver args reply : Action (Machine σ κ (Recorded μ)) _)
      (deliver args reply) := by
  cases reply with
  | data bytes =>
    exact (through_onMemory (through_storeBuffer _ _ _)).bind fun count => through_pure _
  | text text =>
    exact (through_onMemory (through_storeBuffer _ _ _)).bind fun count => through_pure _
  | _ => exact through_pure _

variable [Storage σ] [ByteDevice κ]

theorem through_serve (pid : Pid) (frame : Registers) :
    Through plain (serve pid frame : Action (Machine σ κ (Recorded μ)) _) (serve pid frame) := by
  have responds : Through plain (respond pid frame : Action (Machine σ κ (Recorded μ)) _)
      (respond pid frame) := by
    unfold respond
    cases Call.ofNumber? frame.callNumber.toNat with
    | none => exact through_refuse .noSuchSyscall
    | some call =>
      dsimp only
      rw [serveCall_eq, serveCall_eq]
      refine (through_decode pid frame.arguments call).bind fun asked => ?_
      cases asked with
      | none => exact through_pure _
      | some request =>
        exact (through_onService _).bind fun reply => through_deliver frame.arguments reply
  exact responds.attempt.bind fun answer => through_pure _

/-! ### The accesses of a system call -/

/-- The accesses of carrying out a request: those of delivering the reply, if there is one. -/
def requestAccesses (machine : Machine σ κ (Recorded μ)) (args : Arguments)
    (request : Request) : List Access :=
  match (Service.perform request).run machine.service with
  | .ok reply _ => replyAccesses machine.memory args reply
  | .error _ _ => []

def callAccesses (machine : Machine σ κ (Recorded μ)) (pid : Pid) (args : Arguments)
    (call : Call) : List Access :=
  decodeAccesses machine pid args call ++
    match (decode pid args call).run machine with
    | .ok (some request) decoded => requestAccesses decoded args request
    | _ => []

def accesses (machine : Machine σ κ (Recorded μ)) (pid : Pid) (frame : Registers) : List Access :=
  match Call.ofNumber? frame.callNumber.toNat with
  | some call => callAccesses machine pid frame.arguments call
  | none => []

/-- What is delivered of a request is what its reply asks for. -/
theorem makes_carryOut {reason : Error} {request : Request} (machine : Machine σ κ (Recorded μ))
    (pid : Pid) (args : Arguments)
    (delivers : ∀ reply service, (Service.perform request).run machine.service = .ok reply service →
      Makes Machine.memory reason (deliver args reply) ⟨service, machine.memory⟩
        (replyAccesses machine.memory args reply)) :
    Makes Machine.memory reason (carryOut pid args (some request)) machine
      (requestAccesses machine args request) := by
  refine makes_onService_bind (fun stop service stopped => ?_) fun reply service performed => ?_
  · rw [requestAccesses, stopped]
  · rw [requestAccesses, performed]
    exact delivers reply service performed

/-- A removal is answered without a word. -/
theorem eq_done_of_remove {machine decoded : Machine σ κ (Recorded μ)} {request : Request}
    {reply : Reply} {service : Service σ κ}
    (asked : (decode pid args .remove).run machine = .ok (some request) decoded)
    (performed : (Service.perform request).run decoded.service = .ok reply service) :
    reply = .done := by
  have outcome := decoding machine pid args .remove
  rw [asked] at outcome
  cases outcome with
  | remove loaded =>
      obtain ⟨_, _, same⟩ := eq_of_perform (fun _ => .done) rfl performed
      exact same

theorem makes_serveCall (machine : Machine σ κ (Recorded μ)) (pid : Pid) (args : Arguments)
    (call : Call) :
    Makes Machine.memory (refusal call) (serveCall pid args call) machine
      (callAccesses machine pid args call) := by
  rw [serveCall_eq]
  have decodes := makes_decode machine pid args call
  unfold callAccesses
  cases result : (decode pid args call).run machine with
  | error stop decoded =>
      rw [List.append_nil]
      exact decodes.bind_error result
  | ok asked decoded =>
      refine decodes.bind_ok result ?_
      cases asked with
      | none => exact makes_nothing rfl
      | some request =>
        refine makes_carryOut decoded pid args fun reply service performed => ?_
        by_cases removing : call = .remove
        · subst removing
          rw [eq_done_of_remove result performed]
          exact makes_nothing rfl
        · rw [refusal_eq removing]
          exact makes_deliver ⟨service, decoded.memory⟩ args reply

/-- Nothing is delivered if every reply is empty. -/
theorem requestAccesses_eq_nil {machine : Machine σ κ (Recorded μ)} {request : Request}
    (empty : ∀ reply service, (Service.perform request).run machine.service = .ok reply service →
      replyAccesses machine.memory args reply = []) :
    requestAccesses machine args request = [] := by
  unfold requestAccesses
  split
  · rename_i reply service performed
    exact empty reply service performed
  · rfl

def bufferLength? (args : Arguments) : Call → Option UInt64
  | .read => some args.third
  | .write => some args.third
  | .workingDirectory => some args.second
  | _ => none

/-- A call with an empty buffer does not come to user memory. -/
theorem callAccesses_of_empty (machine : Machine σ κ (Recorded μ)) (pid : Pid) {args : Arguments}
    {call : Call} (empty : bufferLength? args call = some 0) :
    callAccesses machine pid args call = [] := by
  have outcome := decoding machine pid args call
  unfold callAccesses
  cases call with
  | read =>
      have zero : args.third.toNat = 0 := congrArg UInt64.toNat (Option.some.inj empty)
      have nothing : decodeAccesses machine pid args .read = [] := by
        simp only [decodeAccesses, zero, roomAccesses, if_true]
        split <;> rfl
      rw [nothing, List.nil_append]
      generalize (decode pid args .read).run machine = result at outcome
      cases outcome with
      | read allowed usable moderate =>
        refine requestAccesses_eq_nil fun reply service performed => ?_
        obtain ⟨bytes, _, rfl⟩ := eq_of_perform .data rfl performed
        simp only [replyAccesses, zero, depositAccesses, List.take_zero, if_true]
      | _ => rfl
  | write =>
      have zero : args.third.toNat = 0 := congrArg UInt64.toNat (Option.some.inj empty)
      have nothing : decodeAccesses machine pid args .write = [] := by
        simp only [decodeAccesses, zero, bufferAccesses, if_true]
        split <;> rfl
      rw [nothing, List.nil_append]
      generalize (decode pid args .write).run machine = result at outcome
      cases outcome with
      | write allowed loaded =>
        refine requestAccesses_eq_nil fun reply service performed => ?_
        obtain ⟨count, _, rfl⟩ := eq_of_perform .number rfl performed
        rfl
      | _ => rfl
  | workingDirectory =>
      have zero : args.second.toNat = 0 := congrArg UInt64.toNat (Option.some.inj empty)
      change requestAccesses machine args .workingDirectory = []
      refine requestAccesses_eq_nil fun reply service performed => ?_
      obtain ⟨text, _, rfl⟩ := eq_of_perform .text rfl performed
      simp only [replyAccesses, zero, depositAccesses, List.take_zero, if_true]
  | _ => cases empty

/-- The accesses are what answering a frame comes to. -/
theorem makes_respond (machine : Machine σ κ (Recorded μ)) (pid : Pid) (frame : Registers) :
    ∃ reason, Makes Machine.memory reason (respond pid frame) machine
        (accesses machine pid frame) ∧
      (accesses machine pid frame ≠ [] → ∃ call,
        Call.ofNumber? frame.callNumber.toNat = some call ∧ reason = refusal call) := by
  unfold accesses respond
  cases Call.ofNumber? frame.callNumber.toNat with
  | none => exact ⟨.noSuchSyscall, makes_nothing rfl, fun nonempty => absurd rfl nonempty⟩
  | some call =>
      exact ⟨refusal call, makes_serveCall machine pid frame.arguments call, fun _ =>
        ⟨call, rfl, rfl⟩⟩

/-- User memory is touched only where it may be. While a system call is served, by any service,
for any process and every frame of registers, over any implementation of user memory: the
requests that the memory gets are those of the accesses listed, each access is to a proper range,
and every copy directly follows the permission for a range that it is in. An access whose
range is refused copies nothing, and the call reports it. An empty buffer is not touched.
All of this is true of the memory without a record as well. -/
theorem touched_only_when_permitted (machine : Machine σ κ (Recorded μ)) (pid : Pid)
    (frame : Registers) :
    let made := accesses machine pid frame
    let served := (serve pid frame).outcome machine
    served.2.memory.record = machine.memory.record ++ made.flatMap Access.contacts ∧
    Covered (made.flatMap Access.contacts) ∧
    (∀ access ∈ made, access.Proper) ∧
    (∀ access ∈ made, access.verdict ≠ .granted →
      (∀ contact ∈ access.contacts, contact.isCopy = false) ∧
      ∃ call, Call.ofNumber? frame.callNumber.toNat = some call ∧
        served.1 = .ok (frame.withAnswer (.error (refusal call)))) ∧
    (∀ call, Call.ofNumber? frame.callNumber.toNat = some call →
      bufferLength? frame.arguments call = some 0 → made = []) ∧
    (served.1, served.2.plain) = (serve pid frame).outcome machine.plain := by
  intro made served
  obtain ⟨reason, makes, reported⟩ := makes_respond machine pid frame
  have answered : served = _ := outcome_serve machine pid frame
  have left : served.2 = stateOf ((respond pid frame).run machine) := by
    rw [answered]
    cases (respond pid frame).run machine with
    | ok word after => rfl
    | error stop after => cases stop <;> rfl
  refine ⟨?_, covered_flatMap makes.proper, makes.proper, ?_, ?_, ?_⟩
  · rw [left]
    exact makes.record
  · intro access member notGranted
    refine ⟨fun contact contacted => Access.isCopy_of_not_granted notGranted contacted, ?_⟩
    obtain ⟨call, found, rfl⟩ := reported (List.ne_nil_of_mem member)
    obtain ⟨after, refused⟩ := makes.refused access member notGranted
    rw [answered, refused]
    exact ⟨call, found, rfl⟩
  · intro call found empty
    change accesses machine pid frame = []
    rw [accesses, found]
    exact callAccesses_of_empty machine pid empty
  · have seen := through_serve pid frame machine
    change (((serve pid frame).outcome machine).1, ((serve pid frame).outcome machine).2.plain) = _
    rw [outcome_eq, outcome_eq, ← seen]
    cases (serve pid frame).run machine <;> rfl

end Machine

end OpenFiles
