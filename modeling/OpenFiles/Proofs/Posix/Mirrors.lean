import OpenFiles.Proofs.Posix.Model
import OpenFiles.Proofs.Tables.References

/-!
# Descriptor tables and the maps that stand for them

A slot names a group by its place in the arena, which is used again once the group
is gone. The model names an open file by a number that is never used again. A
numbering of the groups relates the two: `Mirrors` says that a map of the model
stands for a table, and `MirrorsAll` says it of all processes. The numbering matters
for the groups that slots name and for no others, so that it may be changed at a
group that comes to life.
-/

namespace OpenFiles

/-- The first place of a list where something holds, looked for by its number. -/
theorem find?_range'_eq {α : Type} {list : List α} {start : Nat} {p : Nat → Bool} {q : α → Bool}
    (agree : ∀ index value, list[index]? = some value → p (start + index) = q value) :
    (List.range' start list.length).find? p = (list.findIdx? q).map (start + ·) := by
  induction list generalizing start with
  | nil => rfl
  | cons head rest ih =>
      have here : p start = q head := agree 0 head rfl
      have later : ∀ index value, rest[index]? = some value →
          p (start + 1 + index) = q value := by
        intro index value found
        rw [Nat.add_assoc, Nat.add_comm 1 index]
        exact agree (index + 1) value found
      rw [List.length_cons, List.range'_succ, List.find?_cons, List.findIdx?_cons, here]
      cases q head with
      | true => rfl
      | false =>
          simp only [Bool.false_eq_true, if_false, ih later, Option.map_map]
          congr 1
          funext index
          exact Nat.add_right_comm start 1 index

namespace DescriptorTable

variable {table : DescriptorTable} {index size granted : Nat} {contents : Option Slot}

/-- A descriptor of the table refers to what is in its place in the list. -/
theorem slot?_of_getElem? (here : table.slots[index]? = some contents) :
    table.slot? ⟨index⟩ = contents := by
  have inRange : table.index? ⟨index⟩ = some index :=
    index?_eq_some_iff.mpr ⟨rfl, (List.getElem?_eq_some_iff.mp here).1⟩
  rw [slot?, inRange, Option.bind_some, here]
  rfl

/-- A table that has room for more than the standard streams has all of them. -/
theorem slots_ofSize_of_lt (made : ofSize size granted = .ok table) (room : reserved < size) :
    table.slots = standardSlots ++ List.replicate (size - reserved) none := by
  have all : standardSlots.take size = standardSlots :=
    List.take_of_length_le (Nat.le_of_lt room)
  rw [slots_ofSize made, all]

end DescriptorTable

namespace Posix

def Target.ofSlot (number : GroupId → Nat) : Slot → Target
  | .stream origin => .stream origin
  | .shared id => .file (number id)

/-- Descriptors of the model stand for a table of a certain size. -/
structure Mirrors (number : GroupId → Nat) (size : Nat) (table : DescriptorTable)
    (descriptors : Descriptors) : Prop where
  size : table.size = size
  targets : ∀ fd, descriptors.get? fd = (table.slot? fd).map (Target.ofSlot number)

/-- The processes of the model stand for those of the tables. -/
def MirrorsAll (number : GroupId → Nat) (size : Nat)
    (processes : OrderedMap Pid DescriptorTable) (maps : OrderedMap Pid Descriptors) : Prop :=
  ∀ pid, Option.Rel (Mirrors number size) (processes.get? pid) (maps.get? pid)

variable {number other : GroupId → Nat} {size granted : Nat} {table : DescriptorTable}
variable {descriptors : Descriptors} {fd : Descriptor} {pid : Pid} {slot : Slot}
variable {processes : OrderedMap Pid DescriptorTable} {maps : OrderedMap Pid Descriptors}

namespace Mirrors

theorem insert (mirrors : Mirrors number size table descriptors)
    (inRange : table.index? fd = some fd.number.toNat) (slot : Slot) :
    Mirrors number size (table.assign fd (some slot))
      (descriptors.insert fd (.ofSlot number slot)) where
  size := (DescriptorTable.size_assign _).trans mirrors.size
  targets fd' := by
    rw [OrderedMap.get?_insert, DescriptorTable.slot?_assign inRange, mirrors.targets]
    split <;> rfl

theorem erase (mirrors : Mirrors number size table descriptors)
    (inRange : table.index? fd = some fd.number.toNat) :
    Mirrors number size (table.assign fd none) (descriptors.erase fd) where
  size := (DescriptorTable.size_assign _).trans mirrors.size
  targets fd' := by
    rw [OrderedMap.get?_erase, DescriptorTable.slot?_assign inRange, mirrors.targets]
    split <;> rfl

/-- The numbers of groups that no slot names do not matter. -/
theorem renumber (mirrors : Mirrors number size table descriptors)
    (same : ∀ fd id, table.slot? fd = some (.shared id) → other id = number id) :
    Mirrors other size table descriptors where
  size := mirrors.size
  targets fd := by
    rw [mirrors.targets]
    cases slot : table.slot? fd with
    | none => rfl
    | some contents =>
        cases contents with
        | stream stream => rfl
        | shared id =>
          rw [Option.map_some, Option.map_some, Target.ofSlot, Target.ofSlot, same fd id slot]

/-- A new table has the standard streams and nothing else. -/
theorem standard (made : DescriptorTable.ofSize size granted = .ok table)
    (room : DescriptorTable.reserved < size) : Mirrors number size table standard where
  size := by
    rw [DescriptorTable.size, DescriptorTable.slots_ofSize_of_lt made room, List.length_append,
      List.length_replicate]
    exact Nat.add_sub_of_le (Nat.le_of_lt room)
  targets fd := by
    have slots := DescriptorTable.slots_ofSize_of_lt made room
    have place (index : Nat) (small : index < 3) :
        table.slots[index]? = DescriptorTable.standardSlots[index]? := by
      rw [slots]
      exact List.getElem?_append_left small
    have first : table.slot? ⟨0⟩ = some (.stream .input) :=
      DescriptorTable.slot?_of_getElem? (place 0 (by decide))
    have second : table.slot? ⟨1⟩ = some (.stream .output) :=
      DescriptorTable.slot?_of_getElem? (place 1 (by decide))
    have third : table.slot? ⟨2⟩ = some (.stream .errors) :=
      DescriptorTable.slot?_of_getElem? (place 2 (by decide))
    simp only [Posix.standard, OrderedMap.get?_insert]
    split
    · rename_i here
      rw [← here, third]
      rfl
    · split
      · rename_i here
        rw [← here, second]
        rfl
      · split
        · rename_i here
          rw [← here, first]
          rfl
        · rename_i notThird notSecond notFirst
          have empty : table.slot? fd = none := by
            cases slot : table.slot? fd with
            | none => rfl
            | some contents =>
                obtain ⟨index, known, here⟩ := Option.bind_eq_some_iff.mp slot
                obtain ⟨number, _⟩ := DescriptorTable.index?_eq_some_iff.mp known
                obtain ⟨name⟩ := fd
                simp only [Descriptor.mk.injEq] at notThird notSecond notFirst number
                have above : DescriptorTable.standardSlots.length ≤ index := by
                  change 3 ≤ index
                  omega
                rw [slots, List.getElem?_append_right above, List.getElem?_replicate] at here
                split at here <;> cases here
          rw [empty]
          rfl

/-- The lowest free slot is the lowest free descriptor of the model. -/
theorem freeDescriptor_eq (mirrors : Mirrors number size table descriptors) :
    table.freeDescriptor =
      match lowestFree descriptors size with
      | some fd => .ok fd
      | none => .error .tooManyOpen := by
  have agree : ∀ index contents,
      (table.slots.drop DescriptorTable.reserved)[index]? = some contents →
      (descriptors.get? ⟨(DescriptorTable.reserved + index : Nat)⟩).isNone = contents.isNone := by
    intro index contents here
    rw [List.getElem?_drop] at here
    rw [mirrors.targets, DescriptorTable.slot?_of_getElem? here, Option.isNone_map]
  have first := find?_range'_eq (p := fun number : Nat => (descriptors.get? ⟨number⟩).isNone) agree
  have length : table.slots.length = size := mirrors.size
  rw [List.length_drop, length] at first
  rw [DescriptorTable.freeDescriptor, lowestFree, first]
  cases (table.slots.drop DescriptorTable.reserved).findIdx? Option.isNone <;> rfl

end Mirrors

namespace MirrorsAll

theorem insert (all : MirrorsAll number size processes maps)
    (mirrors : Mirrors number size table descriptors) (pid : Pid) :
    MirrorsAll number size (processes.insert pid table) (maps.insert pid descriptors) := by
  intro other
  rw [OrderedMap.get?_insert, OrderedMap.get?_insert]
  split
  · exact .some mirrors
  · exact all other

theorem erase (all : MirrorsAll number size processes maps) (pid : Pid) :
    MirrorsAll number size (processes.erase pid) (maps.erase pid) := by
  intro other
  rw [OrderedMap.get?_erase, OrderedMap.get?_erase]
  split
  · exact .none
  · exact all other

theorem missing (all : MirrorsAll number size processes maps)
    (missing : processes.get? pid = none) : maps.get? pid = none := by
  have here := all pid
  rw [missing] at here
  generalize maps.get? pid = there at here
  cases here
  rfl

theorem found (all : MirrorsAll number size processes maps)
    (found : processes.get? pid = some table) :
    ∃ descriptors, maps.get? pid = some descriptors ∧ Mirrors number size table descriptors := by
  have here := all pid
  rw [found] at here
  generalize maps.get? pid = there at here
  cases here with
  | some mirrors => exact ⟨_, rfl, mirrors⟩

/-- Whatever stands for a process stands for its table. -/
theorem mirrors (all : MirrorsAll number size processes maps)
    (found : processes.get? pid = some table) (here : maps.get? pid = some descriptors) :
    Mirrors number size table descriptors := by
  obtain ⟨descriptors', there, mirrors⟩ := all.found found
  rw [here, Option.some.injEq] at there
  rwa [there]

theorem contains_eq (all : MirrorsAll number size processes maps) (pid : Pid) :
    maps.contains pid = processes.contains pid := by
  rw [OrderedMap.contains, OrderedMap.contains]
  cases there : processes.get? pid with
  | none =>
      rw [all.missing there]
      rfl
  | some table =>
      obtain ⟨descriptors, here, _⟩ := all.found there
      rw [here]
      rfl

/-- The numbers of groups that no slot names do not matter. -/
theorem renumber (all : MirrorsAll number size processes maps)
    (same : ∀ ref ∈ referencesOf processes, other ref.2 = number ref.2) :
    MirrorsAll other size processes maps := by
  intro pid
  cases there : processes.get? pid with
  | none =>
      rw [all.missing there]
      exact .none
  | some table =>
      obtain ⟨descriptors, here, mirrors⟩ := all.found there
      rw [here]
      refine .some (mirrors.renumber ?_)
      intro fd id slot
      refine same (⟨pid, fd⟩, id) (mem_referencesOf_iff.mpr ?_)
      rw [there]
      exact slot

end MirrorsAll

end Posix

end OpenFiles
