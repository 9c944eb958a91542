import OpenFiles.Session.Basic

/-!
# Tasks and their memory

A task is a process together with the block of user memory it runs in. Several
tasks may share a block. Arguments of a system call that are text, bytes or room
for an answer are put into the task's block before the call, from left to right,
and the call gets their addresses.

The guard of a block stands between the block and the calls that are served. Who
prepares arguments or inspects the block passes it by.
-/

namespace OpenFiles

/-- An argument of a system call, before it has an address. -/
inductive Argument where
  | word (value : UInt64)
  | text (text : String)
  | data (bytes : Bytes)
  | room (length : Nat)

namespace Session

variable {α : Type}

open OpenFiles.Action

def defaultBlockSize : Nat := 65536

/-- Adds a block of user memory and answers its number. -/
def addBlock (size : Nat) : Action Session Nat :=
  step fun session =>
    (session.blocks.length,
      { session with blocks := session.blocks ++ [⟨MemoryBlock.ofSize size, Guard.inactive⟩] })

/-- Runs an action on the block of a number, behind its guard. -/
def onGuarded (number : Nat) (action : Action (Guarded MemoryBlock) α) : Action Session α :=
  fun session =>
    match session.blocks[number]? with
    | none => .error (.refused .badAddress) session
    | some block =>
      zoom (fun _ => block)
        (fun session block => { session with blocks := session.blocks.set number block })
        action session

/-- Runs an action on the block of a number, past its guard. -/
def onBlock (number : Nat) (action : Action MemoryBlock α) : Action Session α :=
  onGuarded number
    (zoom Guarded.space (fun guarded space => { guarded with space := space }) action)

def setGuard (number : Nat) (guard : Guard) : Action Session Unit :=
  onGuarded number (modify fun guarded => { guarded with guard := guard })

def attachTask (pid : Pid) (block : Nat) : Action Session Nat :=
  step fun session =>
    (session.tasks.length, { session with tasks := session.tasks ++ [⟨pid, block⟩] })

/-- Spawns a process as a task and answers the number of the task with it. -/
def spawnTask (block : Nat) : Action Session (Nat × Pid) := do
  let pid ← onService Service.spawn
  let number ← attachTask pid block
  return (number, pid)

/-- Puts an argument into memory if it needs to be there, and answers the word
that stands for it. -/
def placeArgument : Argument → Action MemoryBlock UInt64
  | .word value => return value
  | .text text => return UInt64.ofNat (← MemoryBlock.depositText text)
  | .data bytes => return UInt64.ofNat (← MemoryBlock.deposit bytes)
  | .room length => return UInt64.ofNat (← MemoryBlock.reserve length)

/-- Puts arguments into memory from left to right. -/
def placeArguments : List Argument → Action MemoryBlock (List UInt64)
  | [] => return []
  | argument :: rest => do
    let word ← placeArgument argument
    let words ← placeArguments rest
    return word :: words

/-- The contents of the rooms among the arguments. -/
def loadRooms : List (Argument × UInt64) → Action MemoryBlock (List Bytes)
  | [] => return []
  | (.room length, start) :: rest => do
    let bytes ← MemoryBlock.peek start.toNat length
    let others ← loadRooms rest
    return bytes :: others
  | _ :: rest => loadRooms rest

def serve (task : Task) (frame : Registers) : Action Session Registers := fun session =>
  match session.blocks[task.block]? with
  | none => .error (.refused .badAddress) session
  | some block =>
    zoom (fun session => (⟨session.service, block⟩ : Machine _ _ _))
      (fun session machine =>
        { session with
          service := machine.service
          blocks := session.blocks.set task.block machine.memory })
      (Machine.serve task.pid frame) session

/-- Makes a system call as a task. Answers the frame after the call and what the
rooms among the arguments hold then. -/
def systemCall (task : Task) (number : UInt64) (arguments : List Argument) :
    Action Session (Registers × List Bytes) := do
  let words ← onBlock task.block (placeArguments arguments)
  let frame ← serve task (Registers.ofCall number (Arguments.ofList words))
  let rooms ← onBlock task.block (loadRooms (arguments.zip words))
  return (frame, rooms)

end Session

end OpenFiles
