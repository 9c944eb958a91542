import OpenFiles.Console.Switchboard
import OpenFiles.FileTree.Storage
import OpenFiles.Service.Request
import OpenFiles.Storage.Unreliable
import OpenFiles.Syscall.Dispatch
import OpenFiles.UserSpace.Guarded
import OpenFiles.UserSpace.MemoryBlock

/-!
# Sessions

A `Session` is a service in use. The service runs over a file tree that can have
outages, and over a switchboard of consoles. Around it stand the things that its
users hold on to: blocks of user memory, tasks, and objects that were opened on
the tree directly. Blocks, tasks and objects are known by their place in the
order in which they were made.

A session can be acted on at every level: through the service, on the bare tree
below it, at either console, and in a block of memory.
-/

namespace OpenFiles

abbrev FileService : Type := Service (Unreliable FileTree) Switchboard

/-- A process and the number of the block of memory it runs in. -/
structure Task where
  pid : Pid
  block : Nat
  deriving DecidableEq

/-- A service with everything around it. Outages can be set only where they are
allowed. -/
structure Session where
  service : FileService
  outagesAllowed : Bool
  blocks : List (Guarded MemoryBlock)
  tasks : List Task
  objects : List Object

namespace Session

variable {α : Type}

open OpenFiles.Action

/-- A session that nobody has used yet. -/
def ofService (outagesAllowed : Bool) (service : FileService) : Session where
  service := service
  outagesAllowed := outagesAllowed
  blocks := []
  tasks := []
  objects := []

def withService (session : Session) (service : FileService) : Session :=
  { session with service := service }

/-- The file tree, without its outages. -/
def fileTree (session : Session) : FileTree := session.service.storage.store

def withFileTree (session : Session) (tree : FileTree) : Session :=
  session.withService (session.service.withStorage { session.service.storage with store := tree })

def onService (action : Action FileService α) : Action Session α :=
  zoom Session.service withService action

def perform (request : Request) : Action Session Reply := onService (Service.perform request)

def onTree (request : FileTree → α × FileTree) : Action Session α :=
  step fun session =>
    let (answer, tree) := request session.fileTree
    (answer, session.withFileTree tree)

/-- Changes the bare file tree, if the tree does not refuse that. -/
def changeTree (request : FileTree.Change) : Action Session (Except TreeError Unit) :=
  onTree request.step.outcome

/-- Opens a path of the bare file tree and answers the number of the new object. -/
def openObject (path : String) (flags : OpenFlags) (permission : UInt32) : Action Session Nat := do
  let answer ← onTree (FileTree.openObject path flags permission)
  let object ← orRefuse answer
  step fun session =>
    (session.objects.length, { session with objects := session.objects ++ [object] })

def onConsole (request : Switchboard → α × Switchboard) : Action Session α :=
  onService (Service.onConsole request)

/-- Sets the outages of the storage. Where they are not allowed, nothing happens. -/
def setOutages (outages : Outages) : Action Session Unit :=
  modify fun session =>
    if session.outagesAllowed then
      session.withService
        (session.service.withStorage { session.service.storage with outages := outages })
    else session

def setQuiet (quiet : Bool) : Action Session Unit :=
  onService (modify fun s => s.withJournal (s.journal.setQuiet quiet))

/-- Collects everything that was printed, the echo of the console last. -/
def collect (session : Session) : String × Session :=
  let (text, journal) := session.service.journal.collect
  let (echo, board) := session.service.console.onHooked Hooked.collect
  (text ++ echo, session.withService ((session.service.withJournal journal).withConsole board))

@[simp] theorem fileTree_withFileTree (session : Session) (tree : FileTree) :
    (session.withFileTree tree).fileTree = tree := rfl

@[simp] theorem tables_withFileTree (session : Session) (tree : FileTree) :
    (session.withFileTree tree).service.tables = session.service.tables := rfl

end Session

end OpenFiles
