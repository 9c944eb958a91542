import OpenFiles.GroupArena
import OpenFiles.OrderedMap.Lemmas
import Mathlib.Tactic.ByContra

/-!
# The group arena through its look-up

`Tidy` is the invariant of the arena alone: the set of free slots and the slots
that hold no group are the same. Under it a new group never lands on a live one.
Each operation is described by what `group?` says afterwards, and each keeps the
arena tidy. The counts and members that only make sense beside the other tables
are in `OpenFiles.Proofs.Tables.Accounts`.
-/

namespace OpenFiles

namespace OrderedMap

variable {κ : Type} [Ord κ] [DecidableEq κ] [Std.TransOrd κ]

theorem exists_mem_of_ne_empty {s : OrderedSet κ} (inhabited : s ≠ ∅) : ∃ key, key ∈ s := by
  by_contra none
  apply inhabited
  apply ext_mem
  intro key
  constructor
  · intro member
    exact absurd ⟨key, member⟩ none
  · intro member
    rw [mem_iff] at member
    simp at member

omit [Std.TransOrd κ] in
theorem ne_empty_of_mem {s : OrderedSet κ} {key : κ} (member : key ∈ s) : s ≠ ∅ := by
  rintro rfl
  rw [mem_iff] at member
  simp at member

theorem mem_singleton_iff [Std.LawfulEqOrd κ] {key other : κ} :
    other ∈ OrderedSet.singleton key ↔ other = key := by
  rw [OrderedSet.singleton, OrderedSet.insert, mem_insert, mem_iff]
  simp

end OrderedMap

namespace ShareGroup

def withMember (group : ShareGroup) (member : Handle) : ShareGroup :=
  { group with members := OrderedSet.insert group.members member }

def withoutMember (group : ShareGroup) (member : Handle) : ShareGroup :=
  { group with members := group.members.erase member }

def withCursor (group : ShareGroup) (cursor : Nat) : ShareGroup := { group with cursor := cursor }

end ShareGroup

namespace GroupArena

/-- The free slots are exactly those without a group. -/
def Tidy (arena : GroupArena) : Prop :=
  ∀ index, index ∈ arena.free ↔ index < arena.slots.length ∧ arena.group? ⟨index⟩ = none

variable {arena : GroupArena} {id other : GroupId} {group : ShareGroup} {member : Handle}

theorem tidy_empty : empty.Tidy := by
  intro index
  constructor
  · intro free
    exact absurd free (by simp [empty, OrderedMap.not_mem_iff])
  · rintro ⟨small, _⟩
    exact absurd small (Nat.not_lt_zero _)

/-- Replacing one live group by another keeps the set of free slots right. -/
theorem Tidy.setSlot (tidy : arena.Tidy) (live : arena.group? id = some group)
    (replaced : ShareGroup) : (arena.setSlot id (some replaced)).Tidy := by
  intro index
  rw [free_setSlot, tidy index, group?_setSlot _ (index_lt_of_group? live)]
  have size : (arena.setSlot id (some replaced)).slots.length = arena.slots.length :=
    List.length_set
  rw [size]
  by_cases here : id = ⟨index⟩
  · subst here
    simp [live]
  · rw [if_neg here]

def dissolve (arena : GroupArena) (id : GroupId) : GroupArena where
  slots := arena.slots.set id.index none
  free := OrderedSet.insert arena.free id.index

theorem group?_dissolve (live : arena.group? id = some group) (other : GroupId) :
    (arena.dissolve id).group? other = if id = other then none else arena.group? other :=
  group?_setSlot none (index_lt_of_group? live) other

theorem Tidy.dissolve (tidy : arena.Tidy) (live : arena.group? id = some group) :
    (arena.dissolve id).Tidy := by
  intro index
  have small := index_lt_of_group? live
  have size : (arena.dissolve id).slots.length = arena.slots.length := List.length_set
  rw [group?_dissolve live, size]
  change index ∈ OrderedSet.insert arena.free id.index ↔ _
  rw [OrderedMap.mem_insert, tidy index]
  by_cases here : id = ⟨index⟩
  · subst here
    simpa using small
  · have apart : index ≠ id.index := fun h => here (by cases id; exact congrArg _ h.symm)
    simp [here, apart]

def departed (arena : GroupArena) (id : GroupId) (group : ShareGroup) (member : Handle) :
    GroupArena :=
  if group.members.erase member = ∅ then arena.dissolve id
  else arena.setSlot id (some (group.withoutMember member))

theorem leave_of_mem (live : arena.group? id = some group) (enrolled : member ∈ group.members) :
    arena.leave id member = .ok (group.row, arena.departed id group member) := by
  simp only [leave_eq, live, if_pos enrolled, departed]
  split <;> rfl

theorem Tidy.departed (tidy : arena.Tidy) (live : arena.group? id = some group)
    (member : Handle) : (arena.departed id group member).Tidy := by
  rw [GroupArena.departed]
  split
  · exact tidy.dissolve live
  · exact tidy.setSlot live _

/-- A departure is seen in one group: it loses the member, and goes with its last. -/
theorem group?_departed (live : arena.group? id = some group) (member : Handle)
    (other : GroupId) :
    (arena.departed id group member).group? other =
      if id = other then
        if group.members.erase member = ∅ then none else some (group.withoutMember member)
      else arena.group? other := by
  rw [departed]
  split
  · exact group?_dissolve live other
  · exact group?_setSlot _ (index_lt_of_group? live) other

theorem length_departed (id : GroupId) (group : ShareGroup) (member : Handle) :
    (arena.departed id group member).slots.length = arena.slots.length := by
  rw [departed]
  split <;> exact List.length_set

/-- A group that a departure leaves behind was there before, and differs in its members at
most. -/
theorem of_group?_departed {left : ShareGroup} (live : arena.group? id = some group)
    (stays : (arena.departed id group member).group? other = some left) :
    ∃ before, arena.group? other = some before ∧
      left = { before with members := left.members } := by
  rw [group?_departed live] at stays
  split at stays
  · rename_i here
    subst here
    split at stays
    · cases stays
    · cases stays
      exact ⟨group, live, rfl⟩
  · exact ⟨left, stays, rfl⟩

/-- A group that a departure leaves behind has members. -/
theorem populated_departed (live : arena.group? id = some group)
    (populated : ∀ other left, arena.group? other = some left → left.members ≠ ∅)
    (other : GroupId) (left : ShareGroup)
    (stays : (arena.departed id group member).group? other = some left) : left.members ≠ ∅ := by
  rw [group?_departed live] at stays
  split at stays
  · split at stays
    · cases stays
    · rename_i inhabited
      cases stays
      exact inhabited
  · exact populated other left stays

/-- A departure takes one handle out of one group. -/
theorem mem_departed_iff (live : arena.group? id = some group) {handle : Handle} :
    (∃ left, (arena.departed id group member).group? other = some left ∧ handle ∈ left.members) ↔
      (∃ before, arena.group? other = some before ∧ handle ∈ before.members) ∧
        ¬ (other = id ∧ handle = member) := by
  rw [group?_departed live]
  by_cases here : id = other
  · subst here
    have remains : handle ∈ group.members.erase member ↔ handle ≠ member ∧ handle ∈ group.members :=
      OrderedMap.mem_erase
    rw [if_pos rfl]
    split
    · rename_i dissolved
      have gone : handle ∉ group.members.erase member := by
        rw [dissolved, OrderedMap.not_mem_iff]
        rfl
      rw [remains] at gone
      simp only [reduceCtorEq, false_and, exists_false, live, Option.some.injEq,
        exists_eq_left', true_and, false_iff, not_and, not_not]
      intro enrolled
      by_contra apart
      exact gone ⟨apart, enrolled⟩
    · simp only [Option.some.injEq, exists_eq_left', ShareGroup.withoutMember, remains, live,
        true_and]
      exact and_comm
  · simp [here, Ne.symm here]

theorem join_of_live (live : arena.group? id = some group) (member : Handle) :
    arena.join id member = .ok (arena.setSlot id (some (group.withMember member))) := by
  simp only [join, amend, live]
  rfl

theorem setCursor_of_live (live : arena.group? id = some group) (cursor : Nat) :
    arena.setCursor id cursor = .ok (arena.setSlot id (some (group.withCursor cursor))) := by
  simp only [setCursor, amend, live]
  rfl

private def reuse (arena : GroupArena) (index : Nat) (group : ShareGroup) : GroupArena where
  slots := arena.slots.set index (some group)
  free := arena.free.erase index

private theorem group?_reuse {index : Nat} (small : index < arena.slots.length)
    (group : ShareGroup) (other : GroupId) :
    (arena.reuse index group).group? other =
      if ⟨index⟩ = other then some group else arena.group? other := by
  have inRange : (⟨index⟩ : GroupId).index < arena.slots.length := small
  exact group?_setSlot (some group) inRange other

private theorem Tidy.reuse {index : Nat} (tidy : arena.Tidy) (free : index ∈ arena.free)
    (group : ShareGroup) : (arena.reuse index group).Tidy := by
  intro other
  obtain ⟨small, vacant⟩ := (tidy index).mp free
  have size : (arena.reuse index group).slots.length = arena.slots.length := List.length_set
  rw [group?_reuse small, size]
  change other ∈ arena.free.erase index ↔ _
  rw [OrderedMap.mem_erase, tidy other]
  by_cases here : index = other
  · subst here
    simp
  · have apart : (⟨index⟩ : GroupId) ≠ ⟨other⟩ := fun h => here (congrArg GroupId.index h)
    simp [apart, Ne.symm here]

theorem group?_of_le (beyond : arena.slots.length ≤ id.index) : arena.group? id = none := by
  rw [group?, List.getElem?_eq_none beyond]
  rfl

private def grow (arena : GroupArena) (group : ShareGroup) : GroupArena :=
  { arena with slots := arena.slots ++ [some group] }

private theorem group?_grow (group : ShareGroup) (other : GroupId) :
    (arena.grow group).group? other =
      if ⟨arena.slots.length⟩ = other then some group else arena.group? other := by
  unfold group? GroupArena.grow
  by_cases here : (⟨arena.slots.length⟩ : GroupId) = other
  · subst here
    simp
  · rw [if_neg here]
    have apart : other.index ≠ arena.slots.length := by
      intro h
      cases other
      exact here (congrArg _ h.symm)
    rcases Nat.lt_or_gt_of_ne apart with before | beyond
    · rw [List.getElem?_append_left before]
    · have past : (arena.slots ++ [some group]).length ≤ other.index := by
        rw [List.length_append, List.length_singleton]
        omega
      rw [List.getElem?_eq_none past, List.getElem?_eq_none (Nat.le_of_lt beyond)]

private theorem Tidy.grow (tidy : arena.Tidy) (full : ∀ index, index ∉ arena.free)
    (group : ShareGroup) : (arena.grow group).Tidy := by
  intro index
  have size : (arena.grow group).slots.length = arena.slots.length + 1 := by
    simp [GroupArena.grow]
  rw [group?_grow, size]
  change index ∈ arena.free ↔ _
  constructor
  · intro free
    exact absurd free (full index)
  · rintro ⟨small, vacant⟩
    by_cases here : (⟨arena.slots.length⟩ : GroupId) = ⟨index⟩
    · simp [here] at vacant
    · rw [if_neg here] at vacant
      have apart : arena.slots.length ≠ index := fun h => here (congrArg _ h)
      exact (tidy index).mpr ⟨by omega, vacant⟩

/-- A new group gets a name that no live group has, and changes no other group. -/
theorem Tidy.found (tidy : arena.Tidy) (row : RowId) (cursor : Nat) (rights : Rights)
    (member : Handle) :
    arena.group? (arena.found row cursor rights member).1 = none ∧
      (∀ other, (arena.found row cursor rights member).2.group? other =
        if (arena.found row cursor rights member).1 = other then
          some ⟨row, cursor, rights, OrderedSet.singleton member⟩
        else arena.group? other) ∧
      (arena.found row cursor rights member).2.Tidy := by
  rw [GroupArena.found]
  cases elements : arena.free.elements with
  | cons lowest rest =>
      have free : lowest ∈ arena.free := by
        rw [← OrderedMap.mem_keys_iff]
        change lowest ∈ arena.free.elements
        rw [elements]
        exact List.mem_cons_self
      obtain ⟨small, vacant⟩ := (tidy lowest).mp free
      exact ⟨vacant, group?_reuse small _, tidy.reuse free _⟩
  | nil =>
      have full : ∀ index, index ∉ arena.free := by
        intro index
        rw [← OrderedMap.mem_keys_iff]
        change index ∉ arena.free.elements
        rw [elements]
        exact List.not_mem_nil
      exact ⟨group?_of_le (Nat.le_refl _), group?_grow _, tidy.grow full _⟩

end GroupArena

end OpenFiles
