import Mathlib.Data.List.Induction
import OpenFiles.Proofs.Tables.Groups

/-!
# What the group arena keeps, whoever calls it

As with the system table, the caller may do anything here: create groups, whatever memory is left
at that time, and name any group that it was ever given in a call, whether it is alive, dissolved,
or a later group in the slot of an earlier one. A call that names a dead group, or that takes a
handle out of a group it is not in, is a fault. The arena is then as the call left it, which is as
it was: `after_of_misused`.

The rest of the development writes the cursor of a group and nothing else. A holder of a live
group may write its row and its rights too; `revise` is that access.

`Turn` lists what one call can do to the arena, and names the one group through which it is seen.
The bound on the number of slots needs a look back: the arena grows only when all slots are taken,
so at that time it had as many groups as slots.
-/

namespace OpenFiles

namespace OrderedMap

variable {κ α : Type} [Ord κ] [DecidableEq κ] [Std.TransOrd κ]

/-- The first key comes before all others. -/
theorem eq_or_lt_of_keys {m : OrderedMap κ α} {first key : κ} {rest : List κ}
    (listed : m.keys = first :: rest) (member : key ∈ m) :
    key = first ∨ compare first key = .lt := by
  have rising : m.keys.Pairwise fun a b => compare a b = .lt := List.pairwise_map.mpr m.rising
  have known := mem_keys_iff.mpr member
  rw [listed] at rising known
  rcases List.mem_cons.mp known with same | later
  · exact .inl same
  · exact .inr ((List.pairwise_cons.mp rising).1 key later)

end OrderedMap

namespace GroupArena

inductive Operation where
  | create (allotment : Allotment) (row : RowId) (cursor : Nat) (rights : Rights)
    (member : Handle)
  | join (id : GroupId) (member : Handle)
  | leave (id : GroupId) (member : Handle)
  | look (id : GroupId)
  | move (id : GroupId) (cursor : Nat)
  | revise (id : GroupId) (row : RowId) (cursor : Nat) (rights : Rights)
  deriving DecidableEq

/-- Writes to a live group everything but its members. -/
def revise (arena : GroupArena) (id : GroupId) (row : RowId) (cursor : Nat) (rights : Rights) :
    Except Fault Unit × GroupArena :=
  arena.amend id fun group => ⟨row, cursor, rights, group.members⟩

/-- The fault of a call, if it has one, and the arena that it leaves behind. A creation that
gets no memory is refused, and that is no fault. -/
def serve (arena : GroupArena) : Operation → Except Fault Unit × GroupArena
  | .create allotment row cursor rights member =>
    (.ok (), (arena.create allotment row cursor rights member).2)
  | .join id member => arena.amend id (·.withMember member)
  | .leave id member =>
    let (answer, next) := arena.takeOut id member
    (answer.map fun _ => (), next)
  | .look id => ((arena.group id).map fun _ => (), arena)
  | .move id cursor => arena.amend id (·.withCursor cursor)
  | .revise id row cursor rights => arena.revise id row cursor rights

def after (arena : GroupArena) (operation : Operation) : GroupArena := (arena.serve operation).2

/-- The group that a call is about: the one that it names, or the one that it founds, or would. -/
def subject (arena : GroupArena) : Operation → GroupId
  | .create _ row cursor rights member => (arena.found row cursor rights member).1
  | .join id _ => id
  | .leave id _ => id
  | .look id => id
  | .move id _ => id
  | .revise id _ _ _ => id

/-- A call names a dead group, or takes a handle out of a group that it is not in. -/
def Misused (arena : GroupArena) : Operation → Prop
  | .create _ _ _ _ _ => False
  | .leave id member => ∀ group, arena.group? id = some group → member ∉ group.members
  | .join id _ => arena.group? id = none
  | .look id => arena.group? id = none
  | .move id _ => arena.group? id = none
  | .revise id _ _ _ => arena.group? id = none

def LowestFree (arena : GroupArena) (id : GroupId) : Prop :=
  arena.group? id = none ∧ ∀ lower : GroupId, lower.index < id.index → arena.group? lower ≠ none

def Populated (arena : GroupArena) : Prop :=
  ∀ id group, arena.group? id = some group → group.members ≠ ∅

variable {arena next : GroupArena} {id other : GroupId} {group left : ShareGroup}
variable {member : Handle} {operation : Operation}

theorem amend_of_live (live : arena.group? id = some group) (f : ShareGroup → ShareGroup) :
    arena.amend id f = (.ok (), arena.setSlot id (some (f group))) := by
  rw [amend, live]

theorem amend_of_dead (dead : arena.group? id = none) (f : ShareGroup → ShareGroup) :
    arena.amend id f = (.error (.deadGroup id), arena) := by
  rw [amend, dead]

theorem takeOut_of_mem (live : arena.group? id = some group) (enrolled : member ∈ group.members) :
    arena.takeOut id member = (.ok group.row, arena.departed id group member) := by
  rw [takeOut_eq, leave_of_mem live enrolled]

theorem takeOut_of_dead (dead : arena.group? id = none) :
    arena.takeOut id member = (.error (.deadGroup id), arena) := by
  rw [takeOut, dead]

/-- What a call can do to the arena, and the group through which that is seen. -/
inductive Turn (arena : GroupArena) : GroupId → GroupArena → Prop
  | idle (id : GroupId) : Turn arena id arena
  | founded (row : RowId) (cursor : Nat) (rights : Rights) (member : Handle) :
      Turn arena (arena.found row cursor rights member).1 (arena.found row cursor rights member).2
  | replaced {id : GroupId} {group left : ShareGroup} (live : arena.group? id = some group)
      (kept : group.members ≠ ∅ → left.members ≠ ∅) :
      Turn arena id (arena.setSlot id (some left))
  | departed {id : GroupId} {group : ShareGroup} (live : arena.group? id = some group)
      (member : Handle) : Turn arena id (arena.departed id group member)

/-- Writing to a group takes a turn with it, if members are not taken away. -/
theorem turn_amend (f : ShareGroup → ShareGroup)
    (kept : ∀ group, group.members ≠ ∅ → (f group).members ≠ ∅) :
    Turn arena id (arena.amend id f).2 := by
  cases live : arena.group? id with
  | none =>
      rw [amend_of_dead live]
      exact .idle id
  | some group =>
      rw [amend_of_live live]
      exact .replaced live (kept group)

theorem turn_create (allotment : Allotment) (row : RowId) (cursor : Nat) (rights : Rights)
    (member : Handle) :
    Turn arena (arena.found row cursor rights member).1
      (arena.create allotment row cursor rights member).2 := by
  cases full : arena.exhausted allotment with
  | true =>
      rw [create_of_exhausted full]
      exact .idle _
  | false =>
      rw [create_of_not_exhausted full]
      exact .founded row cursor rights member

theorem turn_takeOut : Turn arena id (arena.takeOut id member).2 := by
  cases live : arena.group? id with
  | none =>
      rw [takeOut_of_dead live]
      exact .idle id
  | some group =>
      by_cases enrolled : member ∈ group.members
      · rw [takeOut_of_mem live enrolled]
        exact .departed live member
      · rw [takeOut_of_not_mem live enrolled]
        exact .idle id

/-- A call takes a turn with the group that it is about. -/
theorem turn_after (arena : GroupArena) (operation : Operation) :
    Turn arena (arena.subject operation) (arena.after operation) := by
  cases operation with
  | create allotment row cursor rights member =>
      exact turn_create allotment row cursor rights member
  | join id member =>
      exact turn_amend _ fun _ _ =>
        OrderedMap.ne_empty_of_mem (OrderedMap.mem_insert.mpr (.inl rfl))
  | leave id member => exact turn_takeOut
  | look id => exact .idle id
  | move id cursor => exact turn_amend _ fun _ inhabited => inhabited
  | revise id row cursor rights => exact turn_amend _ fun _ inhabited => inhabited

theorem group?_amend (live : arena.group? id = some group) (f : ShareGroup → ShareGroup) :
    (arena.amend id f).2.group? id = some (f group) := by
  rw [amend_of_live live, group?_setSlot _ (index_lt_of_group? live), if_pos rfl]

theorem amend_fault_iff (f : ShareGroup → ShareGroup) :
    arena.group? id = none ↔ ∃ fault, (arena.amend id f).1 = .error fault := by
  cases live : arena.group? id <;> simp [amend, live]

theorem takeOut_fault_iff :
    (∀ group, arena.group? id = some group → member ∉ group.members) ↔
      ∃ fault, (arena.takeOut id member).1.map (fun _ => ()) = .error fault := by
  cases live : arena.group? id with
  | none => simp [takeOut_of_dead live, Except.map]
  | some group =>
      by_cases enrolled : member ∈ group.members
      · simp [takeOut_of_mem live enrolled, enrolled, Except.map]
      · simp [takeOut_of_not_mem live enrolled, enrolled, Except.map]

/-- The calls that fault are the misused ones. -/
theorem misused_iff_fault :
    arena.Misused operation ↔ ∃ fault, (arena.serve operation).1 = .error fault := by
  cases operation with
  | create allotment row cursor rights member => simp [Misused, serve]
  | leave id member => exact takeOut_fault_iff
  | join id member => exact amend_fault_iff _
  | look id =>
      cases live : arena.group? id <;> simp [Misused, serve, GroupArena.group, live, Except.map]
  | move id cursor => exact amend_fault_iff _
  | revise id row cursor rights => exact amend_fault_iff _

/-- A call that faults leaves the arena as it was. -/
theorem after_of_misused (misused : arena.Misused operation) : arena.after operation = arena := by
  cases operation with
  | create allotment row cursor rights member => exact misused.elim
  | leave id member =>
      change (arena.takeOut id member).2 = arena
      cases live : arena.group? id with
      | none => rw [takeOut_of_dead live]
      | some group => rw [takeOut_of_not_mem live (misused group live)]
  | join id member => exact congrArg Prod.snd (amend_of_dead misused _)
  | look id => rfl
  | move id cursor => exact congrArg Prod.snd (amend_of_dead misused _)
  | revise id row cursor rights => exact congrArg Prod.snd (amend_of_dead misused _)

/-- As many groups are live as there are slots exactly if no slot is empty. -/
theorem live_eq_length_iff :
    arena.live = arena.slots.length ↔
      ∀ id : GroupId, id.index < arena.slots.length → arena.group? id ≠ none := by
  rw [live, List.countP_eq_length]
  constructor
  · rintro full ⟨index⟩ small
    rw [group?, List.getElem?_eq_getElem small, Option.join_some]
    exact Option.isSome_iff_ne_none.mp (full _ (List.getElem_mem small))
  · intro full slot here
    obtain ⟨index, small, rfl⟩ := List.getElem_of_mem here
    have taken := full ⟨index⟩ small
    rw [group?, List.getElem?_eq_getElem small, Option.join_some] at taken
    exact Option.isSome_iff_ne_none.mpr taken

/-- A new group takes a slot that is there, or adds one at the end. -/
theorem slots_found (arena : GroupArena) (row : RowId) (cursor : Nat) (rights : Rights)
    (member : Handle) :
    (arena.found row cursor rights member).2.slots.length = arena.slots.length ∨
      (arena.found row cursor rights member).1 = ⟨arena.slots.length⟩ ∧
        (arena.found row cursor rights member).2.slots.length = arena.slots.length + 1 := by
  rw [GroupArena.found]
  cases arena.free.elements with
  | cons lowest rest => exact .inl List.length_set
  | nil => exact .inr ⟨rfl, List.length_append⟩

namespace Tidy

variable (tidy : arena.Tidy) (row : RowId) (cursor : Nat) (rights : Rights) (member : Handle)
include tidy

/-- A new group gets the lowest name that is free. -/
theorem lowestFree_found : arena.LowestFree (arena.found row cursor rights member).1 := by
  refine ⟨(tidy.found row cursor rights member).1, ?_⟩
  rintro ⟨lower⟩ below vacant
  rw [GroupArena.found] at below
  cases elements : arena.free.elements with
  | cons lowest rest =>
      rw [elements] at below
      have listed : lowest ∈ arena.free := by
        rw [← OrderedMap.mem_keys_iff, show arena.free.keys = lowest :: rest from elements]
        exact List.mem_cons_self
      have small := ((tidy lowest).mp listed).1
      have free := (tidy lower).mpr ⟨Nat.lt_trans below small, vacant⟩
      rcases OrderedMap.eq_or_lt_of_keys elements free with same | later
      · exact Nat.ne_of_lt below same
      · exact Nat.lt_asymm below (Nat.compare_eq_lt.mp later)
  | nil =>
      rw [elements] at below
      have free := OrderedMap.mem_keys_iff.mpr ((tidy lower).mpr ⟨below, vacant⟩)
      rw [show arena.free.keys = [] from elements] at free
      cases free

omit row cursor rights member in
/-- Memory matters to a new group only when all slots are taken. -/
theorem exhausted_iff (allotment : Allotment) :
    arena.exhausted allotment = true ↔
      arena.live = arena.slots.length ∧ allotment.admitsGroup arena.live = false := by
  have taken : arena.free.elements.isEmpty = true ↔ arena.live = arena.slots.length := by
    rw [List.isEmpty_iff, live_eq_length_iff]
    constructor
    · intro none id small vacant
      have free := OrderedMap.mem_keys_iff.mpr ((tidy id.index).mpr ⟨small, vacant⟩)
      rw [show arena.free.keys = [] from none] at free
      cases free
    · intro full
      refine List.eq_nil_iff_forall_not_mem.mpr fun index listed => ?_
      obtain ⟨small, vacant⟩ := (tidy index).mp (OrderedMap.mem_keys_iff.mp listed)
      exact full ⟨index⟩ small vacant
  rw [exhausted, Bool.and_eq_true, Bool.not_eq_true', taken]
  refine and_congr_right fun same => ?_
  rw [same]

/-- The arena grows only if all its slots are taken. -/
theorem length_found :
    (arena.found row cursor rights member).2.slots.length = arena.slots.length ∨
      (arena.found row cursor rights member).2.slots.length =
        (arena.found row cursor rights member).2.live := by
  rcases slots_found arena row cursor rights member with same | ⟨new, grown⟩
  · exact .inl same
  · obtain ⟨_, taken⟩ := tidy.lowestFree_found row cursor rights member
    obtain ⟨_, look, _⟩ := tidy.found row cursor rights member
    refine .inr (live_eq_length_iff.mpr fun id small => ?_).symm
    rw [look]
    split
    · exact Option.some_ne_none _
    · rename_i apart
      have differs : id.index ≠ arena.slots.length := fun same => apart (by rw [new, ← same])
      refine taken id ?_
      rw [new]
      show id.index < arena.slots.length
      omega

end Tidy

namespace Turn

theorem tidy (turn : Turn arena id next) (tidy : arena.Tidy) : next.Tidy := by
  cases turn with
  | idle id => exact tidy
  | founded row cursor rights member => exact (tidy.found row cursor rights member).2.2
  | replaced live kept => exact tidy.setSlot live _
  | departed live member => exact tidy.departed live member

theorem populated (turn : Turn arena id next) (tidy : arena.Tidy) (populated : arena.Populated) :
    next.Populated := by
  cases turn with
  | idle id => exact populated
  | founded row cursor rights member =>
      intro other group' live'
      rw [(tidy.found row cursor rights member).2.1] at live'
      split at live'
      · cases live'
        exact OrderedMap.ne_empty_of_mem (OrderedMap.mem_singleton_iff.mpr rfl)
      · exact populated other group' live'
  | @replaced id group left live kept =>
      intro other group' live'
      rw [group?_setSlot _ (index_lt_of_group? live)] at live'
      split at live'
      · cases live'
        exact kept (populated id group live)
      · exact populated other group' live'
  | departed live member => exact populated_departed live populated

/-- Only the group that the turn is about can change. -/
theorem others (turn : Turn arena id next) (tidy : arena.Tidy) (apart : other ≠ id) :
    next.group? other = arena.group? other := by
  cases turn with
  | idle id => rfl
  | founded row cursor rights member =>
      rw [(tidy.found row cursor rights member).2.1, if_neg apart.symm]
  | replaced live kept =>
      rw [group?_setSlot _ (index_lt_of_group? live), if_neg apart.symm]
  | departed live member => rw [group?_departed live, if_neg apart.symm]

theorem length (turn : Turn arena id next) (tidy : arena.Tidy) :
    next.slots.length = arena.slots.length ∨ next.slots.length = next.live := by
  cases turn with
  | idle id => exact .inl rfl
  | founded row cursor rights member => exact tidy.length_found row cursor rights member
  | replaced live kept => exact .inl List.length_set
  | departed live member => exact .inl (length_departed _ _ member)

end Turn

theorem foldl_after_concat (history : List Operation) (operation : Operation) :
    (history ++ [operation]).foldl after empty =
      (history.foldl after empty).after operation := by
  rw [List.foldl_append]
  rfl

theorem tidy_run (history : List Operation) : (history.foldl after empty).Tidy := by
  induction history using List.reverseRecOn with
  | nil => exact tidy_empty
  | append_singleton history operation ih =>
      rw [foldl_after_concat]
      exact (turn_after _ operation).tidy ih

theorem populated_run (history : List Operation) : (history.foldl after empty).Populated := by
  induction history using List.reverseRecOn with
  | nil => exact fun id group live => by cases live
  | append_singleton history operation ih =>
      rw [foldl_after_concat]
      exact (turn_after _ operation).populated (tidy_run history) ih

/-- At some time there were as many groups as there are slots now. -/
theorem peak_run (history : List Operation) :
    ∃ earlier, earlier <+: history ∧
      (history.foldl after empty).slots.length = (earlier.foldl after empty).live := by
  induction history using List.reverseRecOn with
  | nil => exact ⟨[], List.prefix_rfl, rfl⟩
  | append_singleton history operation ih =>
      rw [foldl_after_concat]
      -- Without a new slot the time is an earlier one; with one, all slots are taken now.
      rcases (turn_after _ operation).length (tidy_run history) with same | full
      · obtain ⟨earlier, before, peak⟩ := ih
        exact ⟨earlier, before.trans (List.prefix_append _ _), same.trans peak⟩
      · exact ⟨history ++ [operation], List.prefix_rfl, by rw [full, foldl_after_concat]⟩

/-- No member is left without one that was the only one. -/
theorem erase_eq_empty_iff :
    group.members.erase member = ∅ ↔ ∀ handle ∈ group.members, handle = member := by
  constructor
  · intro gone handle here
    by_contra apart
    exact OrderedMap.ne_empty_of_mem (OrderedMap.mem_erase.mpr ⟨apart, here⟩) gone
  · intro last
    by_contra inhabited
    obtain ⟨handle, left⟩ := OrderedMap.exists_mem_of_ne_empty inhabited
    obtain ⟨apart, here⟩ := OrderedMap.mem_erase.mp left
    exact apart (last handle here)

/-- What holds of the arena after any run of calls, with any names. The free slots are the empty
ones and live groups have members. A new group gets the lowest free name, in a new slot only if
every slot is live, and there never were more slots than groups at one time. It is refused exactly
if every slot is live and memory has no room for one more, and then nothing changes. A departure
answers the row, and dissolves the group exactly if no other member is left; the other calls on a
live group do to it what they are for. The calls that fault are the misused ones; these change
nothing, and all others change one group alone. -/
theorem reuse_laws (history : List Operation) :
    let arena := history.foldl after empty
    arena.Tidy ∧ arena.Populated ∧
      (∀ row cursor rights member,
        arena.LowestFree (arena.found row cursor rights member).1 ∧
          (arena.slots.length ≤ (arena.found row cursor rights member).1.index →
            arena.live = arena.slots.length) ∧
          (arena.found row cursor rights member).2.group?
              (arena.found row cursor rights member).1 =
            some ⟨row, cursor, rights, OrderedSet.singleton member⟩ ∧
          ∀ allotment, arena.create allotment row cursor rights member =
            if arena.live = arena.slots.length ∧ allotment.admitsGroup arena.live = false then
              (.error .noMemory, arena)
            else (.ok (arena.found row cursor rights member).1,
              (arena.found row cursor rights member).2)) ∧
      (∃ earlier, earlier <+: history ∧
        arena.slots.length = (earlier.foldl after empty).live) ∧
      (∀ id group, arena.group? id = some group →
        (∀ member ∈ group.members,
          ∃ next, arena.leave id member = .ok (group.row, next) ∧
            ((∀ handle ∈ group.members, handle = member) → next.group? id = none) ∧
            ((∃ handle ∈ group.members, handle ≠ member) →
              next.group? id = some { group with members := group.members.erase member })) ∧
        (∀ member, (arena.after (.join id member)).group? id = some (group.withMember member)) ∧
        (∀ cursor, (arena.after (.move id cursor)).group? id = some (group.withCursor cursor)) ∧
        ∀ row cursor rights, (arena.after (.revise id row cursor rights)).group? id =
          some ⟨row, cursor, rights, group.members⟩) ∧
      ∀ operation,
        (arena.Misused operation ↔ ∃ fault, (arena.serve operation).1 = .error fault) ∧
          (arena.Misused operation → arena.after operation = arena) ∧
          ∀ other, other ≠ arena.subject operation →
            (arena.after operation).group? other = arena.group? other := by
  intro arena
  have tidy : arena.Tidy := tidy_run history
  refine ⟨tidy, populated_run history, fun row cursor rights member => ?_, peak_run history,
    fun id group live => ⟨fun member enrolled => ?_, fun _ => group?_amend live _,
      fun _ => group?_amend live _, fun _ _ _ => group?_amend live _⟩, fun operation => ?_⟩
  · have lowest := tidy.lowestFree_found row cursor rights member
    obtain ⟨_, look, _⟩ := tidy.found row cursor rights member
    refine ⟨lowest, fun beyond => ?_, by rw [look, if_pos rfl], fun allotment => ?_⟩
    · exact live_eq_length_iff.mpr fun id small => lowest.2 id (Nat.lt_of_lt_of_le small beyond)
    · rw [create]
      exact if_congr (tidy.exhausted_iff allotment) rfl rfl
  · refine ⟨_, leave_of_mem live enrolled, fun last => ?_, fun ⟨handle, here, apart⟩ => ?_⟩
    · rw [group?_departed live, if_pos rfl, if_pos (erase_eq_empty_iff.mpr last)]
    · have stays : group.members.erase member ≠ ∅ := fun gone =>
        apart (erase_eq_empty_iff.mp gone handle here)
      rw [group?_departed live, if_pos rfl, if_neg stays]
      rfl
  · exact ⟨misused_iff_fault, after_of_misused, fun other apart =>
      (turn_after arena operation).others tidy apart⟩

/-- A parent that leaves a second time is at fault and harms nobody; the child, now alone, takes
the group with it. -/
theorem reuse_laws_for_last_member :
    let parent : Handle := ⟨⟨1⟩, ⟨3⟩⟩
    let child : Handle := ⟨⟨2⟩, ⟨3⟩⟩
    let history : List Operation :=
      [.create {} ⟨2⟩ 0 .reading parent, .join ⟨0⟩ child, .leave ⟨0⟩ parent, .leave ⟨0⟩ parent]
    let arena := history.foldl after empty
    arena.Misused (.leave ⟨0⟩ parent) ∧ arena.after (.leave ⟨0⟩ parent) = arena ∧
      ∃ next, arena.leave ⟨0⟩ child = .ok (⟨2⟩, next) ∧ next.group? ⟨0⟩ = none := by
  intro parent child history arena
  obtain ⟨_, _, _, _, leaves, calls⟩ := reuse_laws history
  have live : arena.group? ⟨0⟩ = some ⟨⟨2⟩, 0, .reading, OrderedSet.singleton child⟩ := by
    decide
  have stopped : (arena.serve (.leave ⟨0⟩ parent)).1 = .error (.notMember parent ⟨0⟩) := by rfl
  obtain ⟨faults, unchanged, _⟩ := calls (.leave ⟨0⟩ parent)
  have misused := faults.mpr ⟨_, stopped⟩
  obtain ⟨next, left, dissolved, _⟩ := (leaves ⟨0⟩ _ live).1 child (by decide)
  exact ⟨misused, unchanged misused, next, left,
    dissolved fun handle here => OrderedMap.mem_singleton_iff.mp here⟩

end GroupArena

end OpenFiles
