import OpenFiles.Proofs.FileTree.Unreleased
import OpenFiles.Proofs.Posix.Counts
import OpenFiles.Proofs.Service.Anchors

/-!
# The simulation between the service and the model

`MirroredBy` relates the tables to the maps and files of the model under a numbering
of the groups. `Simulates` puts the storage and the console beside it, and hides the
numbering. The two storages differ at most in what was released: the service releases
objects and the model does not. That is no difference for opens, reads and writes,
since the nodes of open objects are present all the time.

A step of the service that leaves the open files alone and only changes who refers
to them is a `frame`. It covers what closing, ending, duplicating and forking do; the
two other changes are a new file and a moved cursor.
-/

namespace OpenFiles

namespace Posix

variable {number : GroupId → Nat} {capacities : Capacities} {tables after : Tables}
variable {maps later : OrderedMap Pid Descriptors} {files : List OpenFile} {file : OpenFile}
variable {pid : Pid} {fd : Descriptor} {handle : Handle} {id : GroupId} {object : Object}

/-- Processes and files of the model that stand for tables under a numbering. -/
structure MirroredBy (number : GroupId → Nat) (capacities : Capacities) (tables : Tables)
    (maps : OrderedMap Pid Descriptors) (files : List OpenFile) : Prop where
  rows : tables.system.size = capacities.systemRows
  processes : MirrorsAll number capacities.processSlots tables.processes maps
  files : ∀ ref ∈ tables.references, files[number ref.2]? = tables.file? ref.2
  apart : ∀ ref ∈ tables.references, ∀ ref' ∈ tables.references,
    number ref.2 = number ref'.2 → ref.2 = ref'.2

namespace MirroredBy

/-- Other references to the same files. -/
theorem frame (mirrored : MirroredBy number capacities tables maps files)
    (size : after.system.size = tables.system.size)
    (processes : MirrorsAll number capacities.processSlots after.processes later)
    (known : ∀ ref ∈ after.references, ∃ ref' ∈ tables.references, ref'.2 = ref.2 ∧
      after.file? ref.2 = tables.file? ref.2) :
    MirroredBy number capacities after later files where
  rows := size.trans mirrored.rows
  processes := processes
  files ref member := by
    obtain ⟨ref', before, same, shown⟩ := known ref member
    rw [shown, ← same]
    exact mirrored.files ref' before
  apart first member second member' same := by
    obtain ⟨first', before, sameFirst, _⟩ := known first member
    obtain ⟨second', before', sameSecond, _⟩ := known second member'
    rw [← sameFirst, ← sameSecond] at same ⊢
    exact mirrored.apart first' before second' before' same

/-- One file with its cursor elsewhere. -/
theorem reposition {cursor : Nat} (mirrored : MirroredBy number capacities tables maps files)
    (member : (handle, id) ∈ tables.references)
    (repositioning : Tables.Repositioning tables id cursor tables.references after) :
    MirroredBy number capacities after maps
      (files.modify (number id) fun file => { file with cursor := cursor }) := by
  have same : after.references = tables.references := by
    rw [Tables.references, repositioning.processes, Tables.references]
  refine ⟨?_, ?_, ?_, ?_⟩
  · rw [repositioning.system]
    exact mirrored.rows
  · rw [repositioning.processes]
    exact mirrored.processes
  · intro ref there
    rw [same] at there
    rw [List.getElem?_modify, repositioning.files, mirrored.files ref there]
    by_cases here : id = ref.2
    · subst here
      rw [if_pos rfl]
      simp
    · have elsewhere : number id ≠ number ref.2 :=
        fun equal => here (mirrored.apart _ member ref there equal)
      rw [if_neg here]
      simp [elsewhere]
  · intro first there second there'
    rw [same] at there there'
    exact mirrored.apart first there second there'

/-- One more file, under a number that was not in use. -/
theorem enter {table : DescriptorTable} {descriptors : Descriptors} {cursor : Nat} {rights : Rights}
    (mirrored : MirroredBy number capacities tables maps files) (balanced : tables.Balanced)
    (found : tables.processes.get? pid = some table)
    (here : maps.get? pid = some descriptors) (free : table.freeDescriptor = .ok fd)
    (entering : Tables.Entering tables object cursor rights ⟨pid, fd⟩ tables.references id after)
    (shown : after.file? id = some file) :
    MirroredBy (Function.update number id files.length) capacities
      { after with processes :=
          tables.processes.insert pid (table.assign fd (some (.shared id))) }
      (maps.insert pid (descriptors.insert fd (.file files.length))) (files ++ [file]) := by
  obtain ⟨inRange, empty⟩ := DescriptorTable.freeDescriptor_ok free
  have references : (referencesOf (tables.processes.insert pid (table.assign fd
      (some (.shared id))))).Perm ((⟨pid, fd⟩, id) :: tables.references) :=
    referencesOf_insert_assign_some found inRange empty id
  have numbers : ∀ ref ∈ tables.references,
      Function.update number id files.length ref.2 = number ref.2 :=
    fun ref member => Function.update_of_ne (entering.unused ref member) _ _
  have small : ∀ ref ∈ tables.references, number ref.2 < files.length := by
    intro ref member
    obtain ⟨before, there⟩ := Tables.Accounts.exists_file balanced member
    have kept := mirrored.files ref member
    rw [there] at kept
    exact (List.getElem?_eq_some_iff.mp kept).1
  have renumbered := mirrored.processes.renumber numbers
  refine ⟨entering.size.trans mirrored.rows, ?_, ?_, ?_⟩
  · have target : (.file files.length : Target) =
        .ofSlot (Function.update number id files.length) (.shared id) := by
      rw [Target.ofSlot, Function.update_self]
    rw [target]
    exact renumbered.insert ((renumbered.mirrors found here).insert inRange _) pid
  · intro ref member
    change _ = after.file? ref.2
    rcases List.mem_cons.mp (references.mem_iff.mp member) with rfl | before
    · rw [Function.update_self, shown]
      exact List.getElem?_concat_length
    · rw [numbers ref before, entering.files ref before,
        List.getElem?_append_left (small ref before)]
      exact mirrored.files ref before
  · intro first member second member' same
    rcases List.mem_cons.mp (references.mem_iff.mp member) with rfl | before
    · rcases List.mem_cons.mp (references.mem_iff.mp member') with rfl | before'
      · rfl
      · rw [Function.update_self, numbers second before'] at same
        exact absurd same (Nat.ne_of_gt (small second before'))
    · rcases List.mem_cons.mp (references.mem_iff.mp member') with rfl | before'
      · rw [Function.update_self, numbers first before] at same
        exact absurd same (Nat.ne_of_lt (small first before))
      · rw [numbers first before, numbers second before'] at same
        exact mirrored.apart first before second before' same

end MirroredBy

section Looks

variable {σ κ : Type} {m : State σ κ}

namespace MirroredBy

theorem inode?_eq (mirrored : MirroredBy number capacities tables maps m.files)
    {ref : Reference} (member : ref ∈ tables.references) :
    m.inode? (number ref.2) = tables.inode? ref.2 := by
  rw [State.inode?, mirrored.files ref member, Tables.inode?]

/-- The model counts the references that the tables have. -/
theorem descriptorsOn_eq (mirrored : MirroredBy number capacities tables m.processes m.files)
    (inode : Inode) :
    m.descriptorsOn inode =
      tables.references.countP fun ref => tables.inode? ref.2 = some inode := by
  rw [State.descriptorsOn, mirrored.processes.fileReferences_perm.countP_eq, List.countP_map]
  apply List.countP_congr
  intro ref member
  rw [Function.comp_apply, mirrored.inode?_eq member]

theorem mem_openInodes_iff (mirrored : MirroredBy number capacities tables m.processes m.files)
    {inode : Inode} : inode ∈ m.openInodes ↔ tables.Refers tables.references inode := by
  rw [State.openInodes, List.mem_dedup, List.mem_filterMap]
  constructor
  · rintro ⟨⟨handle, file⟩, member, leads⟩
    obtain ⟨id, there, rfl⟩ := mirrored.processes.mem_iff.mp member
    exact ⟨(handle, id), there, (mirrored.inode?_eq there).symm.trans leads⟩
  · rintro ⟨⟨handle, id⟩, there, leads⟩
    exact ⟨(handle, number id), mirrored.processes.mem_iff.mpr ⟨id, there, rfl⟩,
      (mirrored.inode?_eq there).trans leads⟩

theorem length_openInodes (mirrored : MirroredBy number capacities tables m.processes m.files)
    (balanced : tables.Balanced) : m.openInodes.length = tables.system.used :=
  balanced.length_eq_used (List.nodup_dedup _) fun _ => mirrored.mem_openInodes_iff

/-- No row is left for an object exactly if its number would be one too many. -/
theorem full_iff (mirrored : MirroredBy number capacities tables m.processes m.files)
    (balanced : tables.Balanced) :
    tables.system.Full object ↔
      object.inode ∉ m.openInodes ∧ m.openInodes.length = capacities.systemRows := by
  rw [OpenTable.Full, balanced.rowOf?_eq_none_iff, OpenTable.freeRow?_eq_none_iff,
    mirrored.mem_openInodes_iff, mirrored.length_openInodes balanced, mirrored.rows]

/-- The members of a group share the file of its number. -/
theorem sharers_eq (mirrored : MirroredBy number capacities tables m.processes m.files)
    (slot : tables.slot? handle = some (.shared id)) {members : OrderedSet Handle}
    (enrolled : ∀ other, other ∈ members ↔ tables.slot? other = some (.shared id)) :
    m.sharers (number id) = OrderedSet.elements members := by
  have known := Tables.mem_references_iff.mpr slot
  apply OrderedMap.elements_eq_of_rising
  · rw [State.sharers, List.pairwise_map]
    exact (rising_fileReferences m.processes).filter _
  · intro other
    rw [enrolled, ← Tables.mem_references_iff, State.sharers, List.mem_map]
    constructor
    · rintro ⟨⟨_, file⟩, chosen, rfl⟩
      obtain ⟨member, same⟩ := List.mem_filter.mp chosen
      obtain ⟨id', there, rfl⟩ := mirrored.processes.mem_iff.mp member
      have equal : id' = id := mirrored.apart _ there _ known (of_decide_eq_true same)
      subst equal
      exact there
    · intro there
      exact ⟨(other, number id), List.mem_filter.mpr ⟨mirrored.processes.mem_iff.mpr
        ⟨id, there, rfl⟩, decide_eq_true rfl⟩, rfl⟩

end MirroredBy

/-- What the model finds behind a handle is what stands for its slot. -/
theorem MirrorsAll.target_eq {size : Nat}
    (all : MirrorsAll number size tables.processes m.processes)
    {slot : Slot} (there : tables.slot? ⟨pid, fd⟩ = some slot) :
    m.target pid fd = .ok (.ofSlot number slot) := by
  obtain ⟨table, found, slot⟩ := Option.bind_eq_some_iff.mp there
  obtain ⟨descriptors, here, mirrors⟩ := all.found found
  rw [State.target, here]
  simp only [mirrors.targets, slot, Option.map_some]

variable {onStream : StandardStream → Except Stop Reply × State σ κ}
variable {onFile : Nat → OpenFile → Except Stop Reply × State σ κ}

theorem MirrorsAll.on_unresolved {size : Nat} {reason : Error}
    (all : MirrorsAll number size tables.processes m.processes)
    (why : tables.Unresolved ⟨pid, fd⟩ reason) :
    m.on pid fd onStream onFile = m.refuse reason := by
  have missing : m.target pid fd = .error reason := by
    cases why with
    | unknown missing => rw [State.target, all.missing missing]
    | empty found empty =>
        obtain ⟨descriptors, here, mirrors⟩ := all.found found
        rw [State.target, here]
        simp only [mirrors.targets, empty, Option.map_none]
  rw [State.on, missing]

theorem MirrorsAll.on_stream {size : Nat} {stream : StandardStream}
    (all : MirrorsAll number size tables.processes m.processes)
    (slot : tables.slot? ⟨pid, fd⟩ = some (.stream stream)) :
    m.on pid fd onStream onFile = onStream stream := by
  rw [State.on, all.target_eq slot]
  rfl

theorem MirroredBy.on_shared (mirrored : MirroredBy number capacities tables m.processes m.files)
    (slot : tables.slot? ⟨pid, fd⟩ = some (.shared id)) (shown : tables.file? id = some file) :
    m.on pid fd onStream onFile = onFile (number id) file := by
  have kept := mirrored.files _ (Tables.mem_references_iff.mpr slot)
  rw [shown] at kept
  have there : m.file (number id) = .ok file := by
    rw [State.file, kept]
  rw [State.on, mirrored.processes.target_eq slot]
  simp only [Target.ofSlot, there]

end Looks

section Simulates

variable {κ : Type} {s : Service FileTree κ} {m : State FileTree κ}

open FileTree

/-- The model is in a state that stands for the one of the service. The model knows no
shortage of memory, so the service must not run into one. -/
structure Simulates (s : Service FileTree κ) (m : State FileTree κ) : Prop where
  checked : s.capacities.check = .ok ()
  ample : s.allotment = {}
  capacities : m.capacities = s.capacities
  console : m.console = s.console
  storage : Alike m.storage s.storage
  linked : s.storage.Linked
  present : ∀ object, s.Holds object → s.storage.Present object.node
  mirrored : ∃ number, MirroredBy number s.capacities s.tables m.processes m.files

namespace Simulates

theorem withJournal (simulates : Simulates s m) (journal : Journal) :
    Simulates (s.withJournal journal) m :=
  ⟨simulates.checked, simulates.ample, simulates.capacities, simulates.console,
    simulates.storage, simulates.linked, simulates.present, simulates.mirrored⟩

theorem withConsole (simulates : Simulates s m) (console : κ) :
    Simulates (s.withConsole console) { m with console := console } :=
  ⟨simulates.checked, simulates.ample, simulates.capacities, rfl, simulates.storage,
    simulates.linked, simulates.present, simulates.mirrored⟩

/-- The storages may change together, as long as no path is removed. -/
theorem withStorage (simulates : Simulates s m) {store mine : FileTree} (alike : Alike mine store)
    (linked : store.Linked) (present : ∀ id, s.storage.Present id → store.Present id) :
    Simulates (s.withStorage store) { m with storage := mine } :=
  ⟨simulates.checked, simulates.ample, simulates.capacities, simulates.console, alike, linked,
    fun object held => present object.node (simulates.present object held), simulates.mirrored⟩

/-- The model does not notice releases. -/
theorem released (simulates : Simulates s m) {gone : List Object}
    (held : ∀ object ∈ gone, s.Holds object) :
    Simulates (s.withStorage (releaseAll gone s.storage)) m := by
  obtain ⟨same, spares⟩ := unreleased_releaseAll fun object member =>
    simulates.present object (held object member)
  have alike : Alike m.storage (releaseAll gone s.storage) := simulates.storage.trans same.symm
  exact simulates.withStorage alike (spares.linked simulates.linked) spares.present

/-- Other references to the same files, and objects released that were open. -/
theorem frame (simulates : Simulates s m)
    (mirrored : MirroredBy number s.capacities s.tables m.processes m.files) {tables : Tables}
    {gone : List Object} (held : ∀ object ∈ gone, s.Holds object)
    (size : tables.system.size = s.tables.system.size)
    (processes : MirrorsAll number s.capacities.processSlots tables.processes maps)
    (known : ∀ ref ∈ tables.references, ∃ ref' ∈ s.tables.references, ref'.2 = ref.2 ∧
      tables.file? ref.2 = s.tables.file? ref.2) :
    Simulates (s.relieved tables gone) { m with processes := maps } := by
  have released := simulates.released held
  refine ⟨simulates.checked, simulates.ample, simulates.capacities, simulates.console,
    released.storage, released.linked, ?_, number, mirrored.frame size processes known⟩
  intro object after
  obtain ⟨ref, member, file, shown, same⟩ := after
  obtain ⟨ref', before, sameId, sameFile⟩ := known ref member
  refine released.present object ⟨ref', before, file, ?_, same⟩
  rw [sameId]
  exact sameFile.symm.trans shown

end Simulates

end Simulates

end Posix

end OpenFiles
