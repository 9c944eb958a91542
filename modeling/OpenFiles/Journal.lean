import OpenFiles.Capacities
import OpenFiles.Ident

/-!
# Kernel messages

The journal collects what the kernel prints. Plain text always goes through.
Messages have a level and can be silenced as a whole. `Notice` lists the
messages of the tables themselves, each with its level and its wording.
-/

namespace OpenFiles

/-- How a message is marked. -/
inductive Level where
  | info
  | warning
  | debug
  deriving DecidableEq

def Level.tag : Level → String
  | .info => "[INFO]"
  | .warning => "[WARN]"
  | .debug => "[DEBUG]"

/-- What the tables report. -/
inductive Notice where
  /-- The tables were built. -/
  | ready (capacities : Capacities)
  /-- The storage refused to open a path. -/
  | openRefused (path : String) (reason : Error)
  /-- An object found no row in the system table. -/
  | systemTableFull
  /-- A path was opened. -/
  | opened (pid : Pid) (path : String) (fd : Descriptor) (row : RowId)
  /-- A process has no slot left. -/
  | noFreeDescriptor (pid : Pid)
  /-- A close gave back the last handle of a row. -/
  | rowReleased (row : RowId)
  /-- The storage refused to remove a path. -/
  | removeRefused (path : String) (reason : Error)
  /-- A process got its table. -/
  | created (pid : Pid)
  /-- A process inherited descriptors. -/
  | forked (parent child : Pid) (inherited : Nat)
  /-- A process lost its table. -/
  | ended (pid : Pid) (closed : Nat)
  /-- A process asked to end. -/
  | exits (pid : Pid) (status : Int)

namespace Notice

def level : Notice → Level
  | ready _ => .info
  | systemTableFull => .warning
  | noFreeDescriptor _ => .warning
  | removeRefused _ _ => .warning
  | _ => .debug

def wording : Notice → String
  | ready capacities =>
    s!"{capacities.systemRows} system entries, {capacities.processSlots} handles per process."
  | openRefused path reason => s!"open({path}) failed: " ++ reason.name
  | systemTableFull => "system open table is full."
  | opened pid path fd row =>
    s!"pid {pid.number} opened {path} as fd {fd.number} (entry {row.index})."
  | noFreeDescriptor pid => s!"pid {pid.number} has no free descriptor."
  | rowReleased row => s!"entry {row.index} released"
  | removeRefused path reason => s!"remove({path}) failed: " ++ reason.name
  | created pid => s!"pid {pid.number} created."
  | forked parent child inherited =>
    s!"pid {parent.number} forked into pid {child.number} ({inherited} shared)."
  | ended pid closed => s!"pid {pid.number} torn down ({closed} closed)."
  | exits pid status => s!"pid {pid.number} exits with {status}."

end Notice

/-- What has been printed and not yet collected. -/
structure Journal where
  quiet : Bool := false
  text : String := ""
  deriving DecidableEq

namespace Journal

def print (journal : Journal) (text : String) : Journal :=
  { journal with text := journal.text ++ text }

def printLine (journal : Journal) (text : String) : Journal :=
  journal.print (text ++ "\n")

/-- Prints a message, or a bare mark if it has no wording. A quiet journal drops
it. -/
def log (journal : Journal) (level : Level) (message : Option String) : Journal :=
  if journal.quiet then journal
  else
    match message with
    | some wording => journal.printLine (level.tag ++ " " ++ wording)
    | none => journal.printLine level.tag

def note (journal : Journal) (notice : Notice) : Journal :=
  journal.log notice.level (some ("fdtable: " ++ notice.wording))

def setQuiet (journal : Journal) (quiet : Bool) : Journal :=
  { journal with quiet := quiet }

def collect (journal : Journal) : String × Journal :=
  (journal.text, { journal with text := "" })

end Journal

end OpenFiles
