import Mathlib.Data.List.Nodup
import Mathlib.Data.List.Perm.Subperm
import OpenFiles.OrderedMap.Lemmas
import OpenFiles.Service.Processes

/-!
# Looking for a free process identifier

Identifiers are words, and the one after the last is the first again. Steps from an identifier
lead to different identifiers as long as there are fewer of them than words. So if not every
word is taken, the search for a free one finds it after no more steps than identifiers are
taken, and it is the first from its start on.
-/

namespace OpenFiles

namespace Pid

variable {pid : Pid} {m n : Nat}

def ahead (pid : Pid) (steps : Nat) : Pid := ⟨pid.number + UInt64.ofNat steps⟩

@[simp] theorem ahead_zero (pid : Pid) : pid.ahead 0 = pid := by
  simp [ahead]

theorem ahead_ahead (pid : Pid) (m n : Nat) : (pid.ahead m).ahead n = pid.ahead (m + n) := by
  simp only [ahead, UInt64.ofNat_add, UInt64.add_assoc]

theorem next_eq_ahead (pid : Pid) : pid.next = pid.ahead 1 := rfl

theorem next_ahead (pid : Pid) (n : Nat) : pid.next.ahead n = pid.ahead (n + 1) := by
  rw [next_eq_ahead, ahead_ahead, Nat.add_comm]

theorem ahead_next (pid : Pid) (n : Nat) : (pid.ahead n).next = pid.ahead (n + 1) := by
  rw [next_eq_ahead, ahead_ahead]

def stepsTo (pid other : Pid) : Nat := (other.number - pid.number).toNat

theorem stepsTo_ahead (pid : Pid) (small : n < wordLimit) : pid.stepsTo (pid.ahead n) = n := by
  have back : (pid.ahead n).number - pid.number = UInt64.ofNat n := by
    rw [ahead, UInt64.add_comm, UInt64.add_sub_cancel]
  rw [stepsTo, back]
  exact UInt64.toNat_ofNat_of_lt' small

theorem ahead_stepsTo (pid other : Pid) : pid.ahead (pid.stepsTo other) = other := by
  rw [ahead, stepsTo, UInt64.ofNat_toNat, UInt64.add_comm, UInt64.sub_add_cancel]

/-- Fewer steps than there are words lead to different identifiers. -/
theorem ahead_inj (small : m < wordLimit) (small' : n < wordLimit) :
    pid.ahead m = pid.ahead n ↔ m = n := by
  constructor
  · intro same
    rw [← stepsTo_ahead pid small, same, stepsTo_ahead pid small']
  · exact fun same => same ▸ rfl

/-- The search goes on over identifiers that are taken. -/
theorem firstFree_eq_ahead (taken : Pid → Bool) (tries : Nat) (start : Pid) :
    ∃ steps ≤ tries, firstFree taken tries start = start.ahead steps ∧
      (∀ step < steps, taken (start.ahead step) = true) ∧
      (steps < tries → taken (start.ahead steps) = false) := by
  induction tries generalizing start with
  | zero => exact ⟨0, Nat.le_refl 0, (ahead_zero start).symm, nofun, nofun⟩
  | succ tries ih =>
      cases here : taken start with
      | false =>
          refine ⟨0, Nat.zero_le _, ?_, nofun, fun _ => ?_⟩
          · rw [firstFree, here, ahead_zero]
            rfl
          · rw [ahead_zero, here]
      | true =>
          obtain ⟨steps, within, found, before, free⟩ := ih start.next
          refine ⟨steps + 1, Nat.succ_le_succ within, ?_, ?_, ?_⟩
          · rw [firstFree, here, if_pos rfl, found, next_ahead]
          · intro step less
            cases step with
            | zero => rw [ahead_zero, here]
            | succ step =>
                rw [← next_ahead]
                exact before step (Nat.lt_of_succ_lt_succ less)
          · intro less
            rw [← next_ahead]
            exact free (Nat.lt_of_succ_lt_succ less)

/-- One of so many identifiers in a row is not among fewer. -/
theorem exists_ahead_not_mem {α : Type} {map : OrderedMap Pid α} (small : map.size < wordLimit)
    (start : Pid) : ∃ step ≤ map.size, start.ahead step ∉ map := by
  by_contra none
  push Not at none
  have distinct : ((List.range (map.size + 1)).map start.ahead).Nodup := by
    refine List.Nodup.map_on ?_ List.nodup_range
    intro m member n member' same
    rw [List.mem_range] at member member'
    exact (ahead_inj (by omega) (by omega)).mp same
  have among : (List.range (map.size + 1)).map start.ahead ⊆ map.keys := by
    intro pid member
    obtain ⟨step, within, rfl⟩ := List.mem_map.mp member
    exact OrderedMap.mem_keys_iff.mpr (none step (Nat.le_of_lt_succ (List.mem_range.mp within)))
  have fewer := (List.subperm_of_subset distinct among).length_le
  rw [List.length_map, List.length_range, OrderedMap.keys, List.length_map] at fewer
  exact Nat.not_succ_le_self _ fewer

/-- The search finds the first free identifier if there is one at all. -/
theorem firstFree_spec {α : Type} {map : OrderedMap Pid α} (small : map.size < wordLimit)
    (start : Pid) :
    ∃ steps ≤ map.size, firstFree map.contains map.size start = start.ahead steps ∧
      (∀ step < steps, start.ahead step ∈ map) ∧ start.ahead steps ∉ map := by
  obtain ⟨steps, within, found, before, free⟩ := firstFree_eq_ahead map.contains map.size start
  refine ⟨steps, within, found, fun step less => before step less, ?_⟩
  rcases Nat.lt_or_eq_of_le within with less | last
  · intro member
    have taken : map.contains (start.ahead steps) = true := member
    rw [free less] at taken
    cases taken
  · obtain ⟨step, within', unused⟩ := exists_ahead_not_mem small start
    rcases Nat.lt_or_eq_of_le within' with less | same
    · exact absurd (before step (last ▸ less)) unused
    · rw [last, ← same]
      exact unused

end Pid

end OpenFiles
