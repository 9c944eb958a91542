import OpenFiles.Proofs.Syscall.Boundary

/-!
# The three stages of a system call

A system call is decoded into a request to the service, the service performs the request, and
what it replies is delivered: text and data to user memory, and a word to the registers. All
contact with user memory is in the first stage and the last, and the service changes in
the middle one. `serveCall_eq` says that serving is these three stages and nothing else.

A read and a write ask about their descriptor before they turn to user memory. The notice of an
exit is printed before the process ends. Both belong to the first stage; neither touches
a table.
-/

namespace OpenFiles

namespace Machine

open OpenFiles.Action

variable {σ κ μ α β : Type} [Storage σ] [ByteDevice κ] [AddressSpace μ]
variable {machine : Machine σ κ μ} {pid : Pid} {args : Arguments}

/-- The request that the arguments of a call stand for. A call for the process identifier asks
nothing of the service. -/
def decode (pid : Pid) (args : Arguments) : Call → Action (Machine σ κ μ) (Option Request)
  | .openPath => do
    let path ← onMemory (UserSpace.loadText pathMax args.first.toNat)
    let flags ← orRefuse (OpenFlags.parse args.second.toNat)
    return some (.openPath pid path flags args.third.toUInt32)
  | .read => do
    let fd := Descriptor.ofRegister args.first
    onService (Service.requireRights pid fd .reading)
    onMemory (UserSpace.requireBuffer args.second.toNat args.third.toNat)
    let granted ← onService Service.grantedBytes
    if granted ≤ args.third.toNat then
      refuse .noMemory
    else
      return some (.read pid fd args.third.toNat)
  | .write => do
    let fd := Descriptor.ofRegister args.first
    onService (Service.requireRights pid fd .writing)
    let granted ← onService Service.grantedBytes
    let data ← onMemory (UserSpace.loadBuffer args.second.toNat args.third.toNat granted)
    return some (.write pid fd data)
  | .seek =>
    return some (.seek pid (.ofRegister args.first) (signedWord args.second) args.third.toNat)
  | .close => return some (.close pid (.ofRegister args.first))
  | .duplicate => return some (.duplicate pid (.ofRegister args.first) (.ofRegister args.second))
  | .workingDirectory => return some .workingDirectory
  | .remove => do
    match ← attempt (onMemory (UserSpace.loadText nameMax args.first.toNat)) with
    | .error _ => refuse .operationNotPermitted
    | .ok path => return some (.remove path)
  | .fork => return some (.fork pid)
  | .getPid => return none
  | .exit => do
    onService (Service.note (.exits pid (signedWord args.first)))
    return some (.endProcess pid)

/-- The word that a reply is answered with, once text and data are where the arguments ask for
them. -/
def deliver (args : Arguments) : Reply → Action (Machine σ κ μ) UInt64
  | .data bytes => do
    let count ← onMemory (UserSpace.storeBuffer args.second.toNat args.third.toNat bytes)
    return UInt64.ofNat count
  | .text text => do
    let count ←
      onMemory (UserSpace.storeBuffer args.first.toNat args.second.toNat text.toUTF8.toList)
    return UInt64.ofNat count
  | .descriptor fd => return fd.toRegister
  | .number n => return UInt64.ofNat n
  | .process child => return child.number
  | .done => return 0
  | .handles _ => return 0

def carryOut (pid : Pid) (args : Arguments) : Option Request → Action (Machine σ κ μ) UInt64
  | none => return pid.number
  | some request => do
    let reply ← onService (Service.perform request)
    deliver args reply

omit [Storage σ] [ByteDevice κ] [AddressSpace μ] in
theorem onService_bind (action : Action (Service σ κ) α) (next : α → Action (Service σ κ) β) :
    (onService (action >>= next) : Action (Machine σ κ μ) β) =
      onService action >>= fun value => onService (next value) := by
  funext machine
  change (onService (action >>= next)).run machine = EStateM.run (_ >>= _) machine
  rw [EStateM.run_bind, run_onService, run_onService, EStateM.run_bind]
  cases action.run machine.service with
  | ok value service =>
      dsimp only
      rw [run_onService]
  | error stop service => rfl

/-- A request is carried out by running its operation and delivering what is made of the
answer. -/
theorem carryOut_some (pid : Pid) (args : Arguments) {request : Request}
    (action : Action (Service σ κ) α) (reply : α → Reply)
    (performs : Service.perform request = action >>= fun value => pure (reply value)) :
    (carryOut pid args (some request) : Action (Machine σ κ μ) UInt64) =
      onService action >>= fun value => deliver args (reply value) := by
  rw [carryOut, performs, onService_bind, bind_assoc]
  rfl

/-- Serving a call is decoding it, performing the request, and delivering the reply. -/
theorem serveCall_eq (pid : Pid) (args : Arguments) (call : Call) :
    (serveCall pid args call : Action (Machine σ κ μ) UInt64) =
      decode pid args call >>= carryOut pid args := by
  cases call with
  | openPath =>
      simp only [serveCall, serveOpen, decode, bind_assoc, pure_bind]
      refine bind_congr fun path => bind_congr fun flags => ?_
      exact (carryOut_some pid args _ .descriptor rfl).symm
  | read =>
      simp only [serveCall, serveRead, decode, bind_assoc]
      refine bind_congr fun _ => bind_congr fun _ => bind_congr fun granted => ?_
      split
      · rfl
      · rw [pure_bind]
        exact (carryOut_some pid args _ .data rfl).symm
  | write =>
      simp only [serveCall, serveWrite, decode, bind_assoc, pure_bind]
      refine bind_congr fun _ => bind_congr fun granted => bind_congr fun data => ?_
      exact (carryOut_some pid args _ .number rfl).symm
  | seek => exact (carryOut_some pid args _ .number rfl).symm
  | close => exact (carryOut_some pid args _ (fun _ => .done) rfl).symm
  | duplicate => exact (carryOut_some pid args _ .descriptor rfl).symm
  | workingDirectory => exact (carryOut_some pid args _ .text rfl).symm
  | remove =>
      simp only [serveCall, serveRemove, decode, bind_assoc]
      refine bind_congr fun loaded => ?_
      cases loaded with
      | error reason => rfl
      | ok path => exact (carryOut_some pid args _ (fun _ => .done) rfl).symm
  | fork => exact (carryOut_some pid args _ .process rfl).symm
  | getPid => rfl
  | exit =>
      simp only [serveCall, serveExit, decode, bind_assoc, pure_bind]
      refine bind_congr fun _ => ?_
      exact (carryOut_some pid args _ (fun _ => .done) rfl).symm

/-- The answer of a call goes into the frame, and only a fault stops the call. -/
theorem outcome_serve (machine : Machine σ κ μ) (pid : Pid) (frame : Registers) :
    (serve pid frame).outcome machine =
      match (respond pid frame).run machine with
      | .ok word after => (.ok (frame.withAnswer (.ok word)), after)
      | .error (.refused reason) after => (.ok (frame.withAnswer (.error reason)), after)
      | .error (.faulted fault) after => (.error (.faulted fault), after) := by
  rw [outcome_eq, serve, EStateM.run_bind, Service.run_attempt]
  cases (respond pid frame).run machine with
  | ok word after => rfl
  | error stop after => cases stop <;> rfl

end Machine

end OpenFiles
