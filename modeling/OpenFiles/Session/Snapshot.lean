import OpenFiles.Session.Basic

/-!
# Snapshots

A snapshot shows what is open: the processes with their populated descriptors,
and every node of the file tree with its history and the number of handles on
it. It is read off the state and changes nothing.
-/

namespace OpenFiles

/-- What a populated descriptor shows. Standard streams have no cursor. -/
structure DescriptorView where
  fd : Descriptor
  cursor : Option Nat
  rights : Rights
  members : List Handle

/-- What is open at one moment. -/
structure Snapshot where
  openObjects : Nat
  processes : List (Pid × List DescriptorView)
  nodes : List (NodeSummary × Nat)

namespace Session

/-- The number of descriptors of a process that a snapshot shows. -/
def shownDescriptors : Int := 64

def viewDescriptor (groups : GroupArena) (handle : Handle) : Slot → Option DescriptorView
  | .stream stream => some ⟨handle.descriptor, none, stream.rights, [handle]⟩
  | .shared id =>
    (groups.group? id).map fun group =>
      ⟨handle.descriptor, some group.cursor, group.rights, group.members.elements⟩

def viewProcess (groups : GroupArena) (pid : Pid) (table : DescriptorTable) :
    List DescriptorView :=
  (table.populated.filter fun (fd, _) => fd.number < shownDescriptors).filterMap
    fun (fd, slot) => viewDescriptor groups ⟨pid, fd⟩ slot

def snapshot (session : Session) : Snapshot where
  openObjects := session.service.openObjects
  processes := session.service.tables.processes.entries.map fun (pid, table) =>
    (pid, viewProcess session.service.tables.groups pid table)
  nodes := session.fileTree.nodes.zipIdx.map fun (node, index) =>
    (node.summary, session.service.handlesOn ⟨node.inode, node.kind, ⟨index⟩⟩)

end Session

end OpenFiles
