import OpenFiles.DescriptorTable
import Mathlib.Data.List.Nodup

/-!
# A descriptor table through its look-up

What filling, clearing and allocating do to a table is stated here as what
`slot?` says afterwards, descriptor by descriptor. Filling and clearing are both
the same write of one slot, `assign`, and are equal to it wherever they are not
refused.

`shared` lists the descriptors that refer to a group, each once. A write of one
slot adds or removes one element of that list; the statements are up to the order
of the list, because the accounts that are kept over it do not depend on it.
-/

namespace OpenFiles

namespace DescriptorTable

def assign (table : DescriptorTable) (fd : Descriptor) (contents : Option Slot) :
    DescriptorTable :=
  ⟨table.slots.set fd.number.toNat contents⟩

variable {table : DescriptorTable} {fd other : Descriptor} {slot : Slot}

@[simp] theorem size_assign (contents : Option Slot) :
    (table.assign fd contents).size = table.size :=
  List.length_set

theorem index?_assign (contents : Option Slot) :
    (table.assign fd contents).index? other = table.index? other := by
  simp only [index?, size_assign]

theorem inRange_of_slot? (found : table.slot? fd = some slot) :
    table.index? fd = some fd.number.toNat := by
  rw [slot?] at found
  obtain ⟨index, known, _⟩ := Option.bind_eq_some_iff.mp found
  obtain ⟨number, _⟩ := index?_eq_some_iff.mp known
  rw [known, number]
  rfl

/-- A write of one slot changes what is said of that descriptor and of no other. -/
theorem slot?_assign (inRange : table.index? fd = some fd.number.toNat) (contents : Option Slot)
    (other : Descriptor) :
    (table.assign fd contents).slot? other =
      if fd = other then contents else table.slot? other := by
  obtain ⟨number, small⟩ := index?_eq_some_iff.mp inRange
  simp only [slot?, index?_assign]
  by_cases same : fd = other
  · subst same
    simp only [inRange, Option.bind_some, if_pos]
    have : (table.assign fd contents).slots[fd.number.toNat]? = some contents :=
      List.getElem?_set_self small
    rw [this]
    rfl
  · rw [if_neg same]
    cases known : table.index? other with
    | none => rfl
    | some index =>
        obtain ⟨otherNumber, _⟩ := index?_eq_some_iff.mp known
        have apart : fd.number.toNat ≠ index := by
          intro h
          apply same
          cases fd
          cases other
          simp only [Descriptor.mk.injEq]
          simp only at number otherNumber h
          omega
        simp only [Option.bind_some, assign, List.getElem?_set_ne apart]

theorem slot?_assign_self (inRange : table.index? fd = some fd.number.toNat)
    (contents : Option Slot) : (table.assign fd contents).slot? fd = contents := by
  rw [slot?_assign inRange, if_pos rfl]

theorem slot?_assign_of_ne (inRange : table.index? fd = some fd.number.toNat)
    (contents : Option Slot) (apart : fd ≠ other) :
    (table.assign fd contents).slot? other = table.slot? other := by
  rw [slot?_assign inRange, if_neg apart]

/-- Filling an empty slot of the table is a write. -/
theorem fill_eq_ok (inRange : table.index? fd = some fd.number.toNat)
    (empty : table.slot? fd = none) (slot : Slot) :
    table.fill fd slot = .ok (table.assign fd (some slot)) := by
  simp only [fill, inRange, empty]
  rfl

theorem eq_assign_of_fill {later : DescriptorTable} (filled : table.fill fd slot = .ok later) :
    table.index? fd = some fd.number.toNat ∧ later = table.assign fd (some slot) := by
  rw [fill] at filled
  cases known : table.index? fd with
  | none =>
      rw [known] at filled
      cases filled
  | some index =>
      obtain ⟨number, _⟩ := index?_eq_some_iff.mp known
      have here : index = fd.number.toNat := by omega
      rw [known, here] at filled
      cases empty : table.slot? fd with
      | some _ =>
          rw [empty] at filled
          cases filled
      | none =>
          rw [empty] at filled
          cases filled
          exact ⟨congrArg some here, rfl⟩

theorem clear_of_slot? (found : table.slot? fd = some slot) :
    table.clear fd = .ok (slot, table.assign fd none) := by
  simp only [clear, found]
  rfl

theorem clear_of_empty (empty : table.slot? fd = none) :
    table.clear fd = .error .badDescriptor := by
  simp only [clear, empty]

/-- Whatever a refusal to allocate is, it says that the process has too much open. -/
theorem freeDescriptor_error {reason : Error} (refused : table.freeDescriptor = .error reason) :
    reason = .tooManyOpen := by
  rw [freeDescriptor] at refused
  split at refused
  · cases refused
  · cases refused
    rfl

/-- An allocated descriptor is in the table, above the standard streams, and unused. -/
theorem freeDescriptor_ok (allocated : table.freeDescriptor = .ok fd) :
    table.index? fd = some fd.number.toNat ∧ table.slot? fd = none := by
  rw [freeDescriptor] at allocated
  split at allocated
  · rename_i index found
    cases allocated
    obtain ⟨small, isNone, _⟩ := List.findIdx?_eq_some_iff_getElem.mp found
    rw [List.length_drop] at small
    have inRange : table.index? ⟨reserved + index⟩ = some (reserved + index) :=
      index?_eq_some_iff.mpr ⟨by simp, by rw [size]; omega⟩
    refine ⟨inRange, ?_⟩
    rw [slot?, inRange, Option.bind_some]
    rw [List.getElem_drop, Option.isNone_iff_eq_none] at isNone
    rw [List.getElem?_eq_getElem (by omega), isNone]
    rfl
  · cases allocated

/-- Tables of one size that agree on every descriptor are equal. -/
theorem ext_slot? {first second : DescriptorTable} (sizes : first.size = second.size)
    (agree : ∀ fd, first.slot? fd = second.slot? fd) : first = second := by
  have slots : first.slots = second.slots := by
    apply List.ext_getElem sizes
    intro index hfirst hsecond
    have here := agree ⟨index⟩
    have inFirst : first.index? ⟨index⟩ = some index := index?_eq_some_iff.mpr ⟨rfl, hfirst⟩
    have inSecond : second.index? ⟨index⟩ = some index := index?_eq_some_iff.mpr ⟨rfl, hsecond⟩
    simpa only [slot?, inFirst, inSecond, Option.bind_some, List.getElem?_eq_getElem hfirst,
      List.getElem?_eq_getElem hsecond, Option.join_some] using here
  cases first
  cases second
  exact congrArg _ slots

/-- Emptying an empty slot changes nothing. -/
theorem assign_none_of_empty (inRange : table.index? fd = some fd.number.toNat)
    (empty : table.slot? fd = none) : table.assign fd none = table := by
  apply ext_slot? (size_assign none)
  intro other
  rw [slot?_assign inRange]
  by_cases same : fd = other
  · subst same
    rw [if_pos rfl, empty]
  · rw [if_neg same]

@[simp] theorem assign_assign (first second : Option Slot) :
    (table.assign fd first).assign fd second = table.assign fd second := by
  simp [assign]

/-- Descriptors are listed as populated with exactly what they refer to. -/
theorem mem_populated_iff : (fd, slot) ∈ table.populated ↔ table.slot? fd = some slot := by
  simp only [populated, List.mem_filterMap, Prod.exists, Option.map_eq_some_iff, Prod.mk.injEq]
  constructor
  · rintro ⟨_, index, member, _, rfl, rfl, rfl⟩
    have found := List.mem_zipIdx_iff_getElem?.mp member
    have inRange : table.index? ⟨index⟩ = some index :=
      index?_eq_some_iff.mpr ⟨rfl, (List.getElem?_eq_some_iff.mp found).1⟩
    rw [slot?, inRange, Option.bind_some, found]
    rfl
  · intro found
    obtain ⟨index, known, here⟩ := Option.bind_eq_some_iff.mp found
    obtain ⟨number, _⟩ := index?_eq_some_iff.mp known
    refine ⟨some slot, index, ?_, slot, rfl, ?_, rfl⟩
    · exact List.mem_zipIdx_iff_getElem?.mpr (Option.join_eq_some_iff.mp here)
    · cases fd
      exact congrArg _ number.symm

theorem nodup_populated (table : DescriptorTable) : table.populated.Nodup := by
  apply List.Nodup.filterMap
  · rintro ⟨_, index⟩ ⟨_, index'⟩ ⟨fd, slot⟩ first second
    simp only [Option.map_eq_some_iff, Prod.mk.injEq, Option.mem_def] at first second
    obtain ⟨_, rfl, rfl, rfl⟩ := first
    obtain ⟨_, rfl, same, rfl⟩ := second
    have : index = index' := by
      simp only [Descriptor.mk.injEq] at same
      omega
    rw [this]
  · apply List.Nodup.of_map Prod.snd
    rw [List.zipIdx_map_snd]
    exact List.nodup_range'

/-- No descriptor is listed twice. -/
theorem nodup_descriptors (table : DescriptorTable) : (table.populated.map Prod.fst).Nodup := by
  apply List.Nodup.map_on _ table.nodup_populated
  rintro ⟨fd, slot⟩ here ⟨_, slot'⟩ there rfl
  rw [mem_populated_iff] at here there
  rw [here, Option.some.injEq] at there
  rw [there]

theorem mem_shared_iff {id : GroupId} :
    (fd, id) ∈ table.shared ↔ table.slot? fd = some (.shared id) := by
  simp only [shared, List.mem_filterMap, Prod.exists, mem_populated_iff]
  constructor
  · rintro ⟨fd', slot, found, chosen⟩
    cases slot with
    | stream stream => simp at chosen
    | shared group =>
        simp only [Option.some.injEq, Prod.mk.injEq] at chosen
        obtain ⟨rfl, rfl⟩ := chosen
        exact found
  · intro found
    exact ⟨fd, .shared id, found, rfl⟩

theorem nodup_shared (table : DescriptorTable) : table.shared.Nodup := by
  apply List.Nodup.filterMap _ table.nodup_populated
  rintro ⟨fd, slot⟩ ⟨fd', slot'⟩ ⟨fd'', id⟩ first second
  cases slot <;> cases slot' <;> simp_all

/-- Emptying a slot removes its reference from the list. -/
theorem shared_perm_cons_assign_none {id : GroupId} (found : table.slot? fd = some (.shared id)) :
    table.shared.Perm ((fd, id) :: (table.assign fd none).shared) := by
  have absent : (fd, id) ∉ (table.assign fd none).shared := by
    rw [mem_shared_iff, slot?_assign_self (inRange_of_slot? found)]
    simp
  refine (List.perm_ext_iff_of_nodup table.nodup_shared
    (List.nodup_cons.mpr ⟨absent, nodup_shared _⟩)).mpr ?_
  rintro ⟨fd', id'⟩
  rw [mem_shared_iff, List.mem_cons, mem_shared_iff, slot?_assign (inRange_of_slot? found),
    Prod.mk.injEq]
  by_cases same : fd = fd'
  · subst same
    simp [found, eq_comm]
  · simp [same, Ne.symm same]

/-- A slot that refers to no group may be written to without the list noticing. -/
theorem shared_assign_unshared {contents : Option Slot}
    (inRange : table.index? fd = some fd.number.toNat)
    (before : ∀ id, table.slot? fd ≠ some (.shared id))
    (after : ∀ id, contents ≠ some (.shared id)) :
    (table.assign fd contents).shared.Perm table.shared := by
  refine (List.perm_ext_iff_of_nodup (nodup_shared _) table.nodup_shared).mpr ?_
  rintro ⟨fd', id'⟩
  rw [mem_shared_iff, slot?_assign inRange, mem_shared_iff]
  by_cases same : fd = fd'
  · subst same
    simp [before id', after id']
  · simp [same]

/-- Only for want of memory is a table not made. -/
theorem error_ofSize {size granted : Nat} {reason : Error}
    (refused : ofSize size granted = .error reason) :
    reason = .noMemory := by
  rw [ofSize] at refused
  split at refused
  · cases refused
    rfl
  · cases refused

theorem slots_ofSize {size granted : Nat} (made : ofSize size granted = .ok table) :
    table.slots = standardSlots.take size ++ List.replicate (size - reserved) none := by
  rw [ofSize] at made
  split at made
  · cases made
  · cases made
    rfl

/-- A new table refers to no group. -/
theorem shared_ofSize {size granted : Nat} (made : ofSize size granted = .ok table) :
    table.shared = [] := by
  apply List.eq_nil_iff_forall_not_mem.mpr
  rintro ⟨fd, id⟩ member
  rw [mem_shared_iff] at member
  obtain ⟨index, _, here⟩ := Option.bind_eq_some_iff.mp member
  have somewhere := List.mem_of_getElem? (Option.join_eq_some_iff.mp here)
  rw [slots_ofSize made] at somewhere
  rcases List.mem_append.mp somewhere with standard | padding
  · have := List.mem_of_mem_take standard
    simp [standardSlots] at this
  · simp at padding

end DescriptorTable

end OpenFiles
