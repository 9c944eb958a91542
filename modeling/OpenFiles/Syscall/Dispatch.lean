import OpenFiles.Service.Descriptors
import OpenFiles.Service.Paths
import OpenFiles.Service.Processes
import OpenFiles.Service.Transfer
import OpenFiles.Syscall.Call
import OpenFiles.Syscall.Registers
import OpenFiles.UserSpace.Access

/-!
# Serving system calls

A call is served for one process, over the service and the memory of that
process. Serving decodes the argument words, moves text and buffers across the
boundary to user memory, and runs the operation of the service.

The order of the checks is part of the interface. A read looks at the
descriptor, then at the whole destination buffer, and only then takes anything
from the file or the console; so what it takes can be delivered. A write looks at
the descriptor before it loads the buffer.
-/

namespace OpenFiles

/-- The service together with the memory of the process that is being served. -/
structure Machine (σ κ μ : Type) where
  service : Service σ κ
  memory : μ

namespace Machine

variable {σ κ μ α : Type}

open OpenFiles.Action

/-- The longest path that an open accepts, in bytes. -/
def pathMax : Nat := 1023

/-- The longest path that a removal accepts, in bytes. -/
def nameMax : Nat := 255

def onService (action : Action (Service σ κ) α) : Action (Machine σ κ μ) α :=
  zoom Machine.service (fun machine service => { machine with service := service }) action

def onMemory (action : Action μ α) : Action (Machine σ κ μ) α :=
  zoom Machine.memory (fun machine memory => { machine with memory := memory }) action

variable [Storage σ] [ByteDevice κ] [AddressSpace μ]

/-- Opens the path at the first argument, with flags and permission. -/
def serveOpen (pid : Pid) (args : Arguments) : Action (Machine σ κ μ) UInt64 := do
  let path ← onMemory (UserSpace.loadText pathMax args.first.toNat)
  let flags ← orRefuse (OpenFlags.parse args.second.toNat)
  let fd ← onService (Service.openPath pid path flags args.third.toUInt32)
  return fd.toRegister

def serveRead (pid : Pid) (args : Arguments) : Action (Machine σ κ μ) UInt64 := do
  let fd := Descriptor.ofRegister args.first
  let (start, length) := (args.second.toNat, args.third.toNat)
  onService (Service.requireRights pid fd .reading)
  onMemory (UserSpace.requireBuffer start length)
  let granted ← onService Service.grantedBytes
  if granted ≤ length then
    refuse .noMemory
  else
    let data ← onService (Service.read pid fd length)
    let count ← onMemory (UserSpace.storeBuffer start length data)
    return UInt64.ofNat count

def serveWrite (pid : Pid) (args : Arguments) : Action (Machine σ κ μ) UInt64 := do
  let fd := Descriptor.ofRegister args.first
  onService (Service.requireRights pid fd .writing)
  let granted ← onService Service.grantedBytes
  let data ← onMemory (UserSpace.loadBuffer args.second.toNat args.third.toNat granted)
  let count ← onService (Service.write pid fd data)
  return UInt64.ofNat count

def serveSeek (pid : Pid) (args : Arguments) : Action (Machine σ κ μ) UInt64 := do
  let fd := Descriptor.ofRegister args.first
  let cursor ← onService (Service.seek pid fd (signedWord args.second) args.third.toNat)
  return UInt64.ofNat cursor

def serveClose (pid : Pid) (args : Arguments) : Action (Machine σ κ μ) UInt64 := do
  onService (Service.close pid (Descriptor.ofRegister args.first))
  return 0

def serveDuplicate (pid : Pid) (args : Arguments) : Action (Machine σ κ μ) UInt64 := do
  let old := Descriptor.ofRegister args.first
  let new := Descriptor.ofRegister args.second
  let fd ← onService (Service.duplicate pid old new)
  return fd.toRegister

/-- Stores the working directory in a user buffer, cut to fit and without a zero
byte after it. -/
def serveWorkingDirectory (args : Arguments) : Action (Machine σ κ μ) UInt64 := do
  let text ← onService Service.workingDirectory
  let count ←
    onMemory (UserSpace.storeBuffer args.first.toNat args.second.toNat text.toUTF8.toList)
  return UInt64.ofNat count

/-- Removes the path at the first argument. All refusals look alike. -/
def serveRemove (args : Arguments) : Action (Machine σ κ μ) UInt64 := do
  match ← attempt (onMemory (UserSpace.loadText nameMax args.first.toNat)) with
  | .error _ => refuse .operationNotPermitted
  | .ok path =>
    onService (Service.remove path)
    return 0

def serveFork (pid : Pid) : Action (Machine σ κ μ) UInt64 := do
  let child ← onService (Service.fork pid)
  return child.number

def serveExit (pid : Pid) (args : Arguments) : Action (Machine σ κ μ) UInt64 := do
  onService (Service.note (.exits pid (signedWord args.first)))
  onService (Service.endProcess pid)
  return 0

def serveCall (pid : Pid) (args : Arguments) : Call → Action (Machine σ κ μ) UInt64
  | .openPath => serveOpen pid args
  | .read => serveRead pid args
  | .write => serveWrite pid args
  | .seek => serveSeek pid args
  | .close => serveClose pid args
  | .duplicate => serveDuplicate pid args
  | .workingDirectory => serveWorkingDirectory args
  | .remove => serveRemove args
  | .fork => serveFork pid
  | .getPid => return pid.number
  | .exit => serveExit pid args

/-- Serves the call that a frame asks for, if there is one of that number. -/
def respond (pid : Pid) (frame : Registers) : Action (Machine σ κ μ) UInt64 :=
  match Call.ofNumber? frame.callNumber.toNat with
  | some call => serveCall pid frame.arguments call
  | none => refuse .noSuchSyscall

/-- Serves the call that a frame asks for and answers the frame to return with.
Only a fault stops this. -/
def serve (pid : Pid) (frame : Registers) : Action (Machine σ κ μ) Registers := do
  let answer ← attempt (respond pid frame)
  return frame.withAnswer answer

end Machine

end OpenFiles
