import OpenFiles.Proofs.Service.Runs

/-!
# The size of descriptor tables

The tables of all processes have the size that the service was built with. It is small enough
for every slot to have a descriptor of 32 bits. So a register that reaches a slot holds the number
of the slot: no other word is taken for it, and a descriptor that is answered is a word
that names it again.
-/

namespace OpenFiles

def Uniform (size : Nat) (processes : OrderedMap Pid DescriptorTable) : Prop :=
  ∀ pid table, processes.get? pid = some table → table.size = size

namespace Uniform

variable {size : Nat} {processes : OrderedMap Pid DescriptorTable} {pid : Pid}
variable {table : DescriptorTable}

theorem insert (uniform : Uniform size processes) (same : table.size = size) :
    Uniform size (processes.insert pid table) := by
  intro pid' table' found
  rw [OrderedMap.get?_insert] at found
  split at found
  · cases found
    exact same
  · exact uniform pid' table' found

/-- Other contents in one slot do not change a size. -/
theorem insert_assign (uniform : Uniform size processes) (found : processes.get? pid = some table)
    (fd : Descriptor) (contents : Option Slot) :
    Uniform size (processes.insert pid (table.assign fd contents)) :=
  uniform.insert ((DescriptorTable.size_assign contents).trans (uniform pid table found))

theorem erase (uniform : Uniform size processes) : Uniform size (processes.erase pid) := by
  intro pid' table' found
  rw [OrderedMap.get?_erase] at found
  split at found
  · cases found
  · exact uniform pid' table' found

end Uniform

theorem DescriptorTable.size_of_ofSize {size granted : Nat} {table : DescriptorTable}
    (made : DescriptorTable.ofSize size granted = .ok table) : table.size = size := by
  rw [DescriptorTable.size, slots_ofSize made, List.length_append, List.length_take,
    List.length_replicate]
  change min size 3 + (size - 3) = size
  omega

/-! ### Words for descriptors -/

/-- A word below the first that is no descriptor stands for itself. -/
theorem Descriptor.toNat_toRegister {fd : Descriptor} {size : Nat} (small : size < descriptorLimit)
    (nonneg : 0 ≤ fd.number) (within : fd.number < size) :
    (fd.toRegister.toNat : Int) = fd.number := by
  have limit : descriptorLimit = 2 ^ 31 := rfl
  have fits : fd.number < 2 ^ 64 := by omega
  have short : fd.number.toNat < 2 ^ 64 := by omega
  rw [Descriptor.toRegister, UInt64.ofInt, Int.emod_eq_of_lt nonneg fits,
    UInt64.toNat_ofNat_of_lt' short, Int.toNat_of_nonneg nonneg]

/-- A word without a sign stands for itself. -/
theorem signedWord_of_nonneg {word : UInt64} (nonneg : 0 ≤ signedWord word) :
    signedWord word = word.toNat := by
  have whole : word.toNat < 2 ^ 64 := word.toNat_lt
  rw [signedWord, twosComplement, BitVec.toInt_eq_toNat_cond, BitVec.toNat_ofNat,
    Nat.mod_eq_of_lt whole] at nonneg ⊢
  split at nonneg
  · rename_i low
    rw [if_pos low]
  · omega

/-- A register that names a descriptor of some table holds its number. -/
theorem Descriptor.number_ofRegister_of_nonneg {word : UInt64}
    (nonneg : 0 ≤ (Descriptor.ofRegister word).number) :
    (Descriptor.ofRegister word).number = word.toNat := by
  rw [Descriptor.ofRegister] at nonneg ⊢
  split at nonneg
  · rename_i short
    rw [if_pos short]
    exact signedWord_of_nonneg nonneg
  · exact absurd nonneg (by decide)

namespace Service

variable {σ κ α β : Type} {s after : Service σ κ} {pid parent child : Pid}
variable {fd old new : Descriptor}

open OpenFiles.Action

/-- The tables have the size that the service was built with, and descriptors for all slots. -/
structure Bounded (s : Service σ κ) : Prop where
  small : s.capacities.processSlots < descriptorLimit
  uniform : Uniform s.capacities.processSlots s.tables.processes

theorem Bounded.of_processes (bounded : s.Bounded) {processes : OrderedMap Pid DescriptorTable}
    (capacities : after.capacities = s.capacities) (same : after.tables.processes = processes)
    (uniform : Uniform s.capacities.processSlots processes) : after.Bounded := by
  rw [← capacities, ← same] at uniform
  exact ⟨capacities ▸ bounded.small, uniform⟩

/-- A word reaches a slot of a process only if it is the number of the slot. -/
theorem word_of_slot? (bounded : s.Bounded) {table : DescriptorTable} {word : UInt64} {slot : Slot}
    (found : s.tables.processes.get? pid = some table)
    (reaches : table.slot? (.ofRegister word) = some slot) :
    word.toNat < s.capacities.processSlots ∧
      (Descriptor.ofRegister word).number = word.toNat := by
  obtain ⟨number, within⟩ := DescriptorTable.index?_eq_some_iff.mp
    (DescriptorTable.inRange_of_slot? reaches)
  have same := Descriptor.number_ofRegister_of_nonneg (by rw [number]; exact Int.natCast_nonneg _)
  rw [bounded.uniform pid table found] at within
  omega

/-- What is made of an answer does not matter for the state. -/
theorem stateOf_map (action : Action (Service σ κ) α) (f : α → β) (s : Service σ κ) :
    stateOf ((action >>= fun value => pure (f value)).run s) = stateOf (action.run s) := by
  rw [EStateM.run_bind]
  cases action.run s <;> rfl

section Operations

theorem Creating.bounded {result : EStateM.Result Stop (Service σ κ) Unit}
    (creating : Creating s pid result) (bounded : s.Bounded) : (stateOf result).Bounded := by
  cases creating with
  | created fresh made =>
      exact ⟨bounded.small, bounded.uniform.insert (DescriptorTable.size_of_ofSize made)⟩
  | _ => exact bounded

theorem Forking.bounded {result : EStateM.Result Stop (Service σ κ) Unit}
    (forking : Forking s parent child result) (bounded : s.Bounded) : (stateOf result).Bounded := by
  cases forking with
  | forked found fresh arrivals =>
      exact ⟨bounded.small, bounded.uniform.insert (bounded.uniform parent _ found)⟩
  | _ => exact bounded

theorem Checking.bounded {asked : Rights} {result : EStateM.Result Stop (Service σ κ) Unit}
    (checking : Checking s pid fd asked result) (bounded : s.Bounded) :
    (stateOf result).Bounded := by
  cases checking <;> exact bounded

theorem Telling.bounded {result : EStateM.Result Stop (Service σ κ) Nat}
    (telling : Telling s pid fd result) (bounded : s.Bounded) : (stateOf result).Bounded := by
  cases telling <;> exact bounded

theorem Listing.bounded {result : EStateM.Result Stop (Service σ κ) (List Handle)}
    (listing : Listing s pid fd result) (bounded : s.Bounded) : (stateOf result).Bounded := by
  cases listing <;> exact bounded

variable [Storage σ]

theorem Removing.bounded {path : String} {result : EStateM.Result Stop (Service σ κ) Unit}
    (removing : Removing s path result) (bounded : s.Bounded) : (stateOf result).Bounded := by
  cases removing <;> exact ⟨bounded.small, bounded.uniform⟩

theorem stateOf_workingDirectory (s : Service σ κ) : stateOf (workingDirectory.run s) = s := by
  rw [workingDirectory, EStateM.run_bind, EStateM.run_get]
  cases answer : Storage.workingDirectory s.storage <;> simp only [answer] <;> rfl

theorem Closing.bounded {result : EStateM.Result Stop (Service σ κ) Unit}
    (closing : Closing s pid fd result) (bounded : s.Bounded) : (stateOf result).Bounded := by
  cases closing with
  | closed found populated departures =>
      have kept := bounded.uniform.insert_assign found fd none
      exact bounded.of_processes rfl departures.processes kept
  | _ => exact bounded

theorem Ending.bounded {result : EStateM.Result Stop (Service σ κ) Unit}
    (ending : Ending s pid result) (bounded : s.Bounded) : (stateOf result).Bounded := by
  cases ending with
  | unknown missing => exact bounded
  | ended found departures =>
      exact bounded.of_processes rfl departures.processes bounded.uniform.erase

theorem Duplicating.bounded {result : EStateM.Result Stop (Service σ κ) Descriptor}
    (duplicating : Duplicating s pid old new result) (bounded : s.Bounded) :
    (stateOf result).Bounded := by
  cases duplicating with
  | stream found slot apart inRange departures =>
      exact ⟨bounded.small, bounded.uniform.insert_assign found new _⟩
  | shared found slot apart inRange departures joining =>
      exact ⟨bounded.small, bounded.uniform.insert_assign found new _⟩
  | _ => exact bounded

theorem Opening.bounded {path : String} {flags : OpenFlags} {permission : UInt32}
    {result : EStateM.Result Stop (Service σ κ) Descriptor}
    (opening : Opening s pid path flags permission result) (bounded : s.Bounded) :
    (stateOf result).Bounded := by
  cases opening with
  | opened asked found answer room free granted entering =>
      exact ⟨bounded.small, bounded.uniform.insert_assign found _ _⟩
  | _ => exact ⟨bounded.small, bounded.uniform⟩

theorem Seeking.bounded {distance : Int} {whence : Nat}
    {result : EStateM.Result Stop (Service σ κ) Nat}
    (seeking : Seeking s pid fd distance whence result) (bounded : s.Bounded) :
    (stateOf result).Bounded := by
  cases seeking with
  | moved slot shown seekable asked exact inside repositioning =>
      exact bounded.of_processes rfl repositioning.processes bounded.uniform
  | _ => exact bounded

variable [ByteDevice κ]

theorem Reading.bounded {length : Nat} {result : EStateM.Result Stop (Service σ κ) Bytes}
    (reading : Reading s pid fd length result) (bounded : s.Bounded) :
    (stateOf result).Bounded := by
  cases reading with
  | moved slot shown readable positive answer inside repositioning =>
      exact bounded.of_processes rfl repositioning.processes bounded.uniform
  | _ => exact ⟨bounded.small, bounded.uniform⟩

theorem Writing.bounded {data : Bytes} {result : EStateM.Result Stop (Service σ κ) Nat}
    (writing : Writing s pid fd data result) (bounded : s.Bounded) : (stateOf result).Bounded := by
  cases writing with
  | moved slot shown writable positive answer inside repositioning =>
      exact bounded.of_processes rfl repositioning.processes bounded.uniform
  | _ => exact ⟨bounded.small, bounded.uniform⟩

/-- No request changes the size of a table. -/
theorem bounded_next (balanced : s.tables.Balanced) (bounded : s.Bounded) (request : Request) :
    (s.next request).Bounded := by
  have counted (counter : Pid) : (s.withCounter counter).Bounded := ⟨bounded.small, bounded.uniform⟩
  rw [next_eq]
  cases request with
  | createProcess pid =>
      rw [perform, stateOf_map]
      exact (creating s pid).bounded bounded
  | spawn =>
      rw [perform, stateOf_map, run_spawn, stateOf_map]
      exact (creating _ s.freshPid).bounded (counted _)
  | fork parent =>
      have balanced' : (s.withCounter s.freshPid.next).tables.Balanced := balanced
      rw [perform, stateOf_map, run_fork]
      split
      · rw [stateOf_map]
        exact (forking balanced').bounded (counted _)
      · exact counted _
  | forkProcess parent child =>
      rw [perform, stateOf_map]
      exact (forking balanced).bounded bounded
  | endProcess pid =>
      rw [perform, stateOf_map]
      exact (ending balanced).bounded bounded
  | openPath pid path flags permission =>
      rw [perform, stateOf_map]
      exact (opening balanced).bounded bounded
  | close pid fd =>
      rw [perform, stateOf_map]
      exact (closing balanced).bounded bounded
  | duplicate pid old new =>
      rw [perform, stateOf_map]
      exact (duplicating balanced).bounded bounded
  | requireRights pid fd asked =>
      rw [perform, stateOf_map]
      exact (checking balanced asked).bounded bounded
  | read pid fd length =>
      rw [perform, stateOf_map]
      exact (reading balanced length).bounded bounded
  | write pid fd data =>
      rw [perform, stateOf_map]
      exact (writing balanced data).bounded bounded
  | seek pid fd distance whence =>
      rw [perform, stateOf_map]
      exact (seeking balanced distance whence).bounded bounded
  | tell pid fd =>
      rw [perform, stateOf_map]
      exact (telling balanced).bounded bounded
  | members pid fd =>
      rw [perform, stateOf_map]
      exact (listing balanced).bounded bounded
  | workingDirectory =>
      rw [perform, stateOf_map, stateOf_workingDirectory]
      exact bounded
  | remove path =>
      rw [perform, stateOf_map]
      exact (removing s path).bounded bounded

end Operations

variable [Storage σ] [ByteDevice κ] {outside : σ → σ → Prop}

/-- The tables of a service have the size that it was built with at all times. -/
theorem Reachable.bounded (reached : Reachable outside s) : s.Bounded := by
  induction reached with
  | built built =>
      obtain ⟨checked, system, journal, made, rfl⟩ := eq_of_build built
      have small := ((Capacities.check_eq_ok_iff _).mp checked).2.2
      refine ⟨small, fun pid table found => ?_⟩
      cases found
  | next reached request ih => exact bounded_next reached.balanced ih request
  | storage reached change ih => exact ⟨ih.small, ih.uniform⟩
  | console reached console ih => exact ⟨ih.small, ih.uniform⟩
  | memory reached allotment ih => exact ⟨ih.small, ih.uniform⟩

end Service

end OpenFiles
