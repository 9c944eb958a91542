import OpenFiles.Proofs.Posix.Mirrors
import OpenFiles.Proofs.Tables.Inodes

/-!
# What the model reads off the maps

The service keeps members and counts, and the model goes through the maps of all
processes each time it is asked. Both have the same references, up to the numbering,
and so they come to the same members, the same counts and the same open inode
numbers.
-/

namespace OpenFiles

namespace OrderedMap

variable {κ : Type} [Ord κ] [DecidableEq κ] [Std.TransOrd κ]

/-- A rising list with the elements of a set is the list of its elements. -/
theorem elements_eq_of_rising {set : OrderedSet κ} {list : List κ}
    (rising : list.Pairwise fun a b => compare a b = .lt)
    (same : ∀ key, key ∈ list ↔ key ∈ set) : list = OrderedSet.elements set := by
  have ordered : (OrderedSet.elements set).Pairwise fun a b => compare a b = .lt :=
    List.pairwise_map.mpr set.rising
  have distinct : list.Nodup := by
    apply rising.imp
    intro a b before same
    rw [same, Std.ReflOrd.compare_self] at before
    cases before
  have perm : list.Perm (OrderedSet.elements set) :=
    (List.perm_ext_iff_of_nodup distinct set.nodup_keys).mpr fun key =>
      (same key).trans mem_keys_iff.symm
  refine perm.eq_of_pairwise ?_ rising ordered
  intro a b _ _ before after
  rw [Std.OrientedCmp.gt_of_lt after] at before
  cases before

end OrderedMap

namespace Handle

variable {a b : Handle}

/-- Handles are ordered by process first. -/
theorem compare_of_pid (before : compare a.pid b.pid = .lt) : compare a b = .lt := by
  change (compare a.pid b.pid).then (compare a.descriptor b.descriptor) = .lt
  rw [before]
  rfl

theorem compare_of_descriptor (same : a.pid = b.pid)
    (before : compare a.descriptor b.descriptor = .lt) : compare a b = .lt := by
  change (compare a.pid b.pid).then (compare a.descriptor b.descriptor) = .lt
  rw [same, Std.ReflOrd.compare_self, before]
  rfl

end Handle

namespace Posix

variable {number : GroupId → Nat} {size : Nat} {handle : Handle} {file : Nat}
variable {processes : OrderedMap Pid DescriptorTable} {maps : OrderedMap Pid Descriptors}

theorem mem_fileReferences_iff :
    (handle, file) ∈ fileReferences maps ↔
      (maps.get? handle.pid).bind (fun descriptors => descriptors.get? handle.descriptor) =
        some (.file file) := by
  simp only [fileReferences, List.mem_flatMap, List.mem_filterMap, Prod.exists,
    OrderedMap.mem_entries_iff, Option.bind_eq_some_iff]
  constructor
  · rintro ⟨pid, descriptors, found, fd, target, there, chosen⟩
    cases target with
    | stream stream => cases chosen
    | file other =>
        cases chosen
        exact ⟨descriptors, found, there⟩
  · rintro ⟨descriptors, found, there⟩
    exact ⟨handle.pid, descriptors, found, handle.descriptor, .file file, there, rfl⟩

/-- The references of the model come in the order of their handles. -/
theorem rising_fileReferences (maps : OrderedMap Pid Descriptors) :
    (fileReferences maps).Pairwise fun a b => compare a.1 b.1 = .lt := by
  rw [fileReferences, List.pairwise_flatMap]
  constructor
  · rintro ⟨pid, descriptors⟩ _
    rw [List.pairwise_filterMap]
    refine descriptors.rising.imp ?_
    rintro ⟨fd, target⟩ ⟨fd', target'⟩ before ref chosen ref' chosen'
    cases target <;> cases chosen
    cases target' <;> cases chosen'
    exact Handle.compare_of_descriptor rfl before
  · refine maps.rising.imp ?_
    rintro ⟨pid, descriptors⟩ ⟨pid', descriptors'⟩ before ref member ref' member'
    obtain ⟨⟨fd, target⟩, _, chosen⟩ := List.mem_filterMap.mp member
    obtain ⟨⟨fd', target'⟩, _, chosen'⟩ := List.mem_filterMap.mp member'
    cases target <;> cases chosen
    cases target' <;> cases chosen'
    exact Handle.compare_of_pid before

theorem nodup_fileReferences (maps : OrderedMap Pid Descriptors) : (fileReferences maps).Nodup := by
  apply (rising_fileReferences maps).imp
  intro a b before same
  rw [same, Std.ReflOrd.compare_self] at before
  cases before

/-- The references of the model are those of the tables under their numbers. -/
theorem MirrorsAll.mem_iff (all : MirrorsAll number size processes maps) :
    (handle, file) ∈ fileReferences maps ↔
      ∃ id, (handle, id) ∈ referencesOf processes ∧ number id = file := by
  rw [mem_fileReferences_iff]
  simp only [mem_referencesOf_iff]
  cases there : processes.get? handle.pid with
  | none =>
      rw [all.missing there]
      simp
  | some table =>
      obtain ⟨descriptors, here, mirrors⟩ := all.found there
      rw [here, Option.bind_some, Option.bind_some, mirrors.targets]
      cases table.slot? handle.descriptor with
      | none => simp
      | some slot => cases slot <;> simp [Target.ofSlot]

theorem MirrorsAll.fileReferences_perm (all : MirrorsAll number size processes maps) :
    (fileReferences maps).Perm
      ((referencesOf processes).map fun ref => (ref.1, number ref.2)) := by
  have distinct : ((referencesOf processes).map fun ref => (ref.1, number ref.2)).Nodup := by
    refine List.Nodup.map_on ?_ (nodup_referencesOf processes)
    rintro ⟨handle, id⟩ member ⟨handle', id'⟩ member' same
    rw [Prod.mk.injEq] at same
    have here := mem_referencesOf_iff.mp member
    have there := mem_referencesOf_iff.mp member'
    simp only at same here there
    rw [same.1, there] at here
    cases here
    rw [same.1]
  refine (List.perm_ext_iff_of_nodup (nodup_fileReferences maps) distinct).mpr ?_
  rintro ⟨handle, file⟩
  rw [all.mem_iff, List.mem_map]
  simp only [Prod.exists, Prod.mk.injEq]
  constructor
  · rintro ⟨id, member, same⟩
    exact ⟨handle, id, member, rfl, same⟩
  · rintro ⟨_, id, member, rfl, same⟩
    exact ⟨id, member, same⟩

end Posix

end OpenFiles
