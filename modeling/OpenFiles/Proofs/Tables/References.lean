import OpenFiles.OrderedMap.Lemmas
import OpenFiles.Proofs.Tables.Slots
import OpenFiles.Service.Basic

/-!
# The references that processes hold

A reference is a handle together with the group that its slot names. The list of
all references, over all processes, is what the counts of the system table and
the members of the groups have to agree with. Processes and descriptors come in
order in it, but the statements about changes are up to permutation: they say
which references a change of one process adds or takes away.
-/

namespace OpenFiles

/-- A handle, and the group that its slot refers to. -/
abbrev Reference : Type := Handle × GroupId

namespace OrderedMap

variable {κ α : Type} [Ord κ] [DecidableEq κ] [Std.TransOrd κ]

theorem entries_perm_erase {m : OrderedMap κ α} {key : κ} {value : α}
    (found : m.get? key = some value) : m.entries.Perm ((key, value) :: (m.erase key).entries) := by
  have absent : (key, value) ∉ (m.erase key).entries := by
    rw [mem_entries_iff, get?_erase_self]
    simp
  refine (List.perm_ext_iff_of_nodup m.nodup_entries
    (List.nodup_cons.mpr ⟨absent, nodup_entries _⟩)).mpr ?_
  rintro ⟨other, value'⟩
  rw [mem_entries_iff, List.mem_cons, mem_entries_iff, get?_erase, Prod.mk.injEq]
  by_cases same : key = other
  · subst same
    simp [found, eq_comm]
  · simp [same, Ne.symm same]

/-- Erasing a key forgets what was last inserted at it. -/
theorem erase_insert_self [Std.LawfulEqOrd κ] (m : OrderedMap κ α) (key : κ) (value : α) :
    (m.insert key value).erase key = m.erase key := by
  apply ext_get?
  intro other
  rw [get?_erase, get?_erase, get?_insert]
  by_cases same : key = other <;> simp [same]

/-- Inserting at a key twice keeps the last value. -/
theorem insert_insert_self [Std.LawfulEqOrd κ] (m : OrderedMap κ α) (key : κ) (first second : α) :
    (m.insert key first).insert key second = m.insert key second := by
  apply ext_get?
  intro other
  simp only [get?_insert]
  by_cases same : key = other <;> simp [same]

/-- Inserting what a key has already changes nothing. -/
theorem insert_of_get? [Std.LawfulEqOrd κ] {m : OrderedMap κ α} {key : κ} {value : α}
    (found : m.get? key = some value) : m.insert key value = m := by
  apply ext_get?
  intro other
  rw [get?_insert]
  by_cases same : key = other
  · subst same
    rw [if_pos rfl, found]
  · rw [if_neg same]

end OrderedMap

def DescriptorTable.references (table : DescriptorTable) (pid : Pid) : List Reference :=
  table.shared.map fun (fd, id) => (⟨pid, fd⟩, id)

/-- The reference of one descriptor, if it refers to a group. -/
def DescriptorTable.referencesAt (table : DescriptorTable) (pid : Pid) (fd : Descriptor) :
    List Reference :=
  match table.slot? fd with
  | some (.shared id) => [(⟨pid, fd⟩, id)]
  | _ => []

def referencesOf (processes : OrderedMap Pid DescriptorTable) : List Reference :=
  processes.entries.flatMap fun (pid, table) => table.references pid

namespace Tables

def slot? (tables : Tables) (handle : Handle) : Option Slot :=
  (tables.processes.get? handle.pid).bind fun table => table.slot? handle.descriptor

def references (tables : Tables) : List Reference := referencesOf tables.processes

end Tables

variable {processes : OrderedMap Pid DescriptorTable} {table : DescriptorTable}
variable {pid : Pid} {fd : Descriptor} {id : GroupId} {handle : Handle}

namespace DescriptorTable

theorem referencesAt_empty (empty : table.slot? fd = none) : table.referencesAt pid fd = [] := by
  simp only [referencesAt, empty]

theorem referencesAt_stream {stream : StandardStream}
    (found : table.slot? fd = some (.stream stream)) :
    table.referencesAt pid fd = [] := by
  simp only [referencesAt, found]

theorem referencesAt_shared (found : table.slot? fd = some (.shared id)) :
    table.referencesAt pid fd = [(⟨pid, fd⟩, id)] := by
  simp only [referencesAt, found]

theorem mem_references_iff :
    (handle, id) ∈ table.references pid ↔
      handle.pid = pid ∧ table.slot? handle.descriptor = some (.shared id) := by
  simp only [references, List.mem_map, Prod.exists, mem_shared_iff, Prod.mk.injEq]
  constructor
  · rintro ⟨fd, id', found, rfl, rfl⟩
    exact ⟨rfl, found⟩
  · rintro ⟨rfl, found⟩
    exact ⟨handle.descriptor, id, found, rfl, rfl⟩

theorem nodup_references (table : DescriptorTable) (pid : Pid) :
    (table.references pid).Nodup := by
  apply List.Nodup.map _ table.nodup_shared
  rintro ⟨fd, id⟩ ⟨fd', id'⟩ same
  simpa using same

/-- Emptying a slot takes the reference of the descriptor out. -/
theorem references_perm_assign_none (pid : Pid) (inRange : table.index? fd = some fd.number.toNat) :
    (table.references pid).Perm
      (table.referencesAt pid fd ++ (table.assign fd none).references pid) := by
  have unshared (nothing : ∀ id, table.slot? fd ≠ some (.shared id)) :
      (table.references pid).Perm ((table.assign fd none).references pid) :=
    ((shared_assign_unshared inRange nothing (by simp)).map _).symm
  cases slot : table.slot? fd with
  | none =>
      rw [referencesAt_empty slot]
      exact unshared (by simp [slot])
  | some contents =>
      cases contents with
      | stream stream =>
          rw [referencesAt_stream slot]
          exact unshared (by simp [slot])
      | shared id =>
          rw [referencesAt_shared slot]
          exact (shared_perm_cons_assign_none slot).map _

end DescriptorTable

/-- The references are the slots that refer to groups. -/
theorem mem_referencesOf_iff :
    (handle, id) ∈ referencesOf processes ↔
      (processes.get? handle.pid).bind (fun table => table.slot? handle.descriptor) =
        some (.shared id) := by
  simp only [referencesOf, List.mem_flatMap, Prod.exists, OrderedMap.mem_entries_iff,
    DescriptorTable.mem_references_iff, Option.bind_eq_some_iff]
  constructor
  · rintro ⟨pid, table, found, rfl, slot⟩
    exact ⟨table, found, slot⟩
  · rintro ⟨table, found, slot⟩
    exact ⟨handle.pid, table, found, rfl, slot⟩

theorem nodup_referencesOf (processes : OrderedMap Pid DescriptorTable) :
    (referencesOf processes).Nodup := by
  rw [referencesOf, List.nodup_flatMap]
  constructor
  · rintro ⟨pid, table⟩ _
    exact table.nodup_references pid
  · refine (List.pairwise_map.mp processes.nodup_keys).imp ?_
    rintro ⟨pid, table⟩ ⟨pid', table'⟩ apart ⟨handle, id⟩ first second
    obtain ⟨here, _⟩ := DescriptorTable.mem_references_iff.mp first
    obtain ⟨there, _⟩ := DescriptorTable.mem_references_iff.mp second
    exact apart (here.symm.trans there)

/-- A process that is taken out takes its own references with it. -/
theorem referencesOf_perm_erase (found : processes.get? pid = some table) :
    (referencesOf processes).Perm
      (table.references pid ++ referencesOf (processes.erase pid)) :=
  (OrderedMap.entries_perm_erase found).flatMap_right _

theorem referencesOf_insert_perm (processes : OrderedMap Pid DescriptorTable) (pid : Pid)
    (table : DescriptorTable) :
    (referencesOf (processes.insert pid table)).Perm
      (table.references pid ++ referencesOf (processes.erase pid)) := by
  have := referencesOf_perm_erase (processes.get?_insert_self pid table)
  rwa [OrderedMap.erase_insert_self] at this

/-- A new process brings its own references along. -/
theorem referencesOf_insert_fresh (fresh : pid ∉ processes) (table : DescriptorTable) :
    (referencesOf (processes.insert pid table)).Perm
      (table.references pid ++ referencesOf processes) := by
  have := referencesOf_insert_perm processes pid table
  rwa [OrderedMap.erase_of_not_mem fresh] at this

/-- A new process with a new table refers to no group. -/
theorem referencesOf_insert_ofSize {size granted : Nat} (fresh : pid ∉ processes)
    (made : DescriptorTable.ofSize size granted = .ok table) :
    (referencesOf (processes.insert pid table)).Perm (referencesOf processes) := by
  have added := referencesOf_insert_fresh fresh table
  rwa [DescriptorTable.references, DescriptorTable.shared_ofSize made] at added

/-- The reference of a descriptor is gone once its slot is emptied. -/
theorem referencesOf_perm_insert_assign_none (found : processes.get? pid = some table)
    (inRange : table.index? fd = some fd.number.toNat) :
    (referencesOf processes).Perm
      (table.referencesAt pid fd ++
        referencesOf (processes.insert pid (table.assign fd none))) := by
  have emptied := DescriptorTable.references_perm_assign_none pid inRange
  have inserted := referencesOf_insert_perm processes pid (table.assign fd none)
  refine (referencesOf_perm_erase found).trans ((emptied.append_right _).trans ?_)
  rw [List.append_assoc]
  exact inserted.symm.append_left _

/-- What the other descriptors of a process refer to, they still refer to once a slot is
emptied. -/
theorem mem_referencesOf_insert_assign_none {other : Descriptor}
    (inRange : table.index? fd = some fd.number.toNat) (apart : fd ≠ other)
    (found : table.slot? other = some (.shared id)) :
    (⟨pid, other⟩, id) ∈ referencesOf (processes.insert pid (table.assign fd none)) := by
  rw [mem_referencesOf_iff, OrderedMap.get?_insert_self, Option.bind_some,
    DescriptorTable.slot?_assign_of_ne inRange none apart, found]

/-- Populating an emptied descriptor adds what it refers to then. -/
theorem referencesOf_insert_assign (processes : OrderedMap Pid DescriptorTable) (pid : Pid)
    (inRange : table.index? fd = some fd.number.toNat) (contents : Slot) :
    (referencesOf (processes.insert pid (table.assign fd (some contents)))).Perm
      ((table.assign fd (some contents)).referencesAt pid fd ++
        referencesOf (processes.insert pid (table.assign fd none))) := by
  have found : (processes.insert pid (table.assign fd (some contents))).get? pid =
      some (table.assign fd (some contents)) := OrderedMap.get?_insert_self _ _ _
  have range : (table.assign fd (some contents)).index? fd = some fd.number.toNat :=
    (DescriptorTable.index?_assign (some contents)).trans inRange
  have removed := referencesOf_perm_insert_assign_none found range
  rwa [OrderedMap.insert_insert_self, DescriptorTable.assign_assign] at removed

/-- A stream in a slot refers to nothing. -/
theorem referencesOf_insert_assign_stream (processes : OrderedMap Pid DescriptorTable) (pid : Pid)
    (inRange : table.index? fd = some fd.number.toNat) (stream : StandardStream) :
    (referencesOf (processes.insert pid (table.assign fd (some (.stream stream))))).Perm
      (referencesOf (processes.insert pid (table.assign fd none))) := by
  have added := referencesOf_insert_assign processes pid inRange (.stream stream)
  rwa [DescriptorTable.referencesAt_stream (DescriptorTable.slot?_assign_self inRange _),
    List.nil_append] at added

theorem referencesOf_insert_assign_shared (processes : OrderedMap Pid DescriptorTable) (pid : Pid)
    (inRange : table.index? fd = some fd.number.toNat) (id : GroupId) :
    (referencesOf (processes.insert pid (table.assign fd (some (.shared id))))).Perm
      ((⟨pid, fd⟩, id) :: referencesOf (processes.insert pid (table.assign fd none))) := by
  have added := referencesOf_insert_assign processes pid inRange (.shared id)
  rwa [DescriptorTable.referencesAt_shared (DescriptorTable.slot?_assign_self inRange _),
    List.singleton_append] at added

/-- A reference written into an empty slot is added. -/
theorem referencesOf_insert_assign_some (found : processes.get? pid = some table)
    (inRange : table.index? fd = some fd.number.toNat) (empty : table.slot? fd = none)
    (id : GroupId) :
    (referencesOf (processes.insert pid (table.assign fd (some (.shared id))))).Perm
      ((⟨pid, fd⟩, id) :: referencesOf processes) := by
  have added := referencesOf_insert_assign_shared processes pid inRange id
  rwa [DescriptorTable.assign_none_of_empty inRange empty, OrderedMap.insert_of_get? found] at added

end OpenFiles
