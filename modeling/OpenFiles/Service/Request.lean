import OpenFiles.Service.Descriptors
import OpenFiles.Service.Paths
import OpenFiles.Service.Processes
import OpenFiles.Service.Queries
import OpenFiles.Service.Transfer

/-!
# Requests as data

A `Request` names an operation of the service together with its arguments, and
a `Reply` holds its answer. `perform` runs the operation. A history of the
service is a list of requests, whatever they were answered: `after` is the state
that a list of requests leads to.
-/

namespace OpenFiles

/-- An operation of the service with its arguments. -/
inductive Request where
  | createProcess (pid : Pid)
  | spawn
  | fork (parent : Pid)
  | forkProcess (parent child : Pid)
  | endProcess (pid : Pid)
  | openPath (pid : Pid) (path : String) (flags : OpenFlags) (permission : UInt32)
  | close (pid : Pid) (fd : Descriptor)
  | duplicate (pid : Pid) (old new : Descriptor)
  | requireRights (pid : Pid) (fd : Descriptor) (asked : Rights)
  | read (pid : Pid) (fd : Descriptor) (length : Nat)
  | write (pid : Pid) (fd : Descriptor) (data : Bytes)
  | seek (pid : Pid) (fd : Descriptor) (distance : Int) (whence : Nat)
  | tell (pid : Pid) (fd : Descriptor)
  | members (pid : Pid) (fd : Descriptor)
  | workingDirectory
  | remove (path : String)
  deriving DecidableEq

/-- The answer to an operation of the service. -/
inductive Reply where
  | done
  | process (pid : Pid)
  | descriptor (fd : Descriptor)
  | data (bytes : Bytes)
  | number (n : Nat)
  | handles (list : List Handle)
  | text (text : String)
  deriving DecidableEq

namespace Service

variable {σ κ : Type} [Storage σ] [ByteDevice κ]

def perform : Request → Action (Service σ κ) Reply
  | .createProcess pid => do
    createProcess pid
    return .done
  | .spawn => do
    let pid ← spawn
    return .process pid
  | .fork parent => do
    let child ← fork parent
    return .process child
  | .forkProcess parent child => do
    forkProcess parent child
    return .done
  | .endProcess pid => do
    endProcess pid
    return .done
  | .openPath pid path flags permission => do
    let fd ← openPath pid path flags permission
    return .descriptor fd
  | .close pid fd => do
    close pid fd
    return .done
  | .duplicate pid old new => do
    let fd ← duplicate pid old new
    return .descriptor fd
  | .requireRights pid fd asked => do
    requireRights pid fd asked
    return .done
  | .read pid fd length => do
    let bytes ← read pid fd length
    return .data bytes
  | .write pid fd data => do
    let count ← write pid fd data
    return .number count
  | .seek pid fd distance whence => do
    let cursor ← seek pid fd distance whence
    return .number cursor
  | .tell pid fd => do
    let cursor ← tell pid fd
    return .number cursor
  | .members pid fd => do
    let list ← members pid fd
    return .handles list
  | .workingDirectory => do
    let path ← workingDirectory
    return .text path
  | .remove path => do
    remove path
    return .done

/-- The service after a request, whatever the answer. -/
def next (s : Service σ κ) (request : Request) : Service σ κ :=
  ((perform request).outcome s).2

/-- The service after a history of requests. -/
def after (s : Service σ κ) (history : List Request) : Service σ κ :=
  history.foldl next s

@[simp] theorem after_nil (s : Service σ κ) : s.after [] = s := rfl

@[simp] theorem after_cons (s : Service σ κ) (request : Request) (rest : List Request) :
    s.after (request :: rest) = (s.next request).after rest := rfl

theorem after_append (s : Service σ κ) (first second : List Request) :
    s.after (first ++ second) = (s.after first).after second :=
  List.foldl_append

end Service

end OpenFiles
