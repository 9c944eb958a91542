import Mathlib.Algebra.Ring.Nat
import OpenFiles.Lock

/-!
# Contention for a lock

Threads take turns at a locked counter, each with additions to make. `follow_total` is
the invariant: what was added and what is still to be added make the same sum all the
time. So every schedule that lets the threads finish ends with the same value, as
`contend_of_schedule` says.
-/

namespace OpenFiles

namespace LockedCounter

theorem sum_set_of_succ {work : List Nat} {thread left : Nat}
    (there : work[thread]? = some (left + 1)) :
    (work.set thread left).sum + 1 = work.sum := by
  induction work generalizing thread with
  | nil => cases there
  | cons first rest ih =>
    cases thread with
    | zero =>
      cases there
      simp only [List.set_cons_zero, List.sum_cons]
      omega
    | succ thread =>
      have below := ih there
      simp only [List.set_cons_succ, List.sum_cons]
      omega

/-- A turn moves 1 from the additions that are left to the counter, or nothing. -/
theorem turn_total (thread : Nat) (work : List Nat) (counter : LockedCounter) :
    ∃ left later, (turn thread work).run counter = .ok left later ∧
      later.value + UInt64.ofNat left.sum = counter.value + UInt64.ofNat work.sum := by
  unfold turn
  split
  · rename_i left there
    refine ⟨_, ⟨counter.value + 1⟩, rfl, ?_⟩
    rw [← sum_set_of_succ there, UInt64.ofNat_add, UInt64.add_assoc,
      UInt64.add_comm _ (UInt64.ofNat 1)]
    rfl
  · exact ⟨work, counter, rfl, rfl⟩

/-- Whatever the schedule, what is added and what is left make the same sum. -/
theorem follow_total (schedule work : List Nat) (counter : LockedCounter) :
    ∃ left later, (follow schedule work).run counter = .ok left later ∧
      later.value + UInt64.ofNat left.sum = counter.value + UInt64.ofNat work.sum := by
  induction schedule generalizing work counter with
  | nil => exact ⟨work, counter, rfl, rfl⟩
  | cons thread schedule ih =>
    obtain ⟨middle, between, turned, total⟩ := turn_total thread work counter
    obtain ⟨left, later, followed, total'⟩ := ih middle between
    refine ⟨left, later, ?_, total'.trans total⟩
    rw [follow, EStateM.run_bind, turned]
    exact followed

theorem follow_append (first second work : List Nat) :
    follow (first ++ second) work = follow first work >>= follow second := by
  induction first generalizing work with
  | nil => rfl
  | cons thread first ih =>
    funext counter
    simp only [List.cons_append, follow, ih, bind_assoc]

/-- A thread that keeps the lock finishes. -/
theorem follow_replicate (before after : List Nat) (rounds : Nat) (counter : LockedCounter) :
    ∃ later,
      (follow (List.replicate rounds before.length) (before ++ rounds :: after)).run counter =
        .ok (before ++ 0 :: after) later := by
  induction rounds generalizing counter with
  | zero => exact ⟨counter, rfl⟩
  | succ rounds ih =>
    obtain ⟨later, finished⟩ := ih ⟨counter.value + 1⟩
    have turned : (turn before.length (before ++ (rounds + 1) :: after)).run counter =
        .ok (before ++ rounds :: after) ⟨counter.value + 1⟩ := by
      unfold turn
      simp only [List.getElem?_append_right (Nat.le_refl _),
        Nat.sub_self, List.getElem?_cons_zero, List.set_append_right _ _ (Nat.le_refl _),
        List.set_cons_zero]
      rfl
    refine ⟨later, ?_⟩
    rw [List.replicate_succ, follow, EStateM.run_bind, turned]
    exact finished

/-- If each keeps the lock until it has finished, all threads finish. -/
theorem follow_range' (done threads rounds : Nat) (counter : LockedCounter) :
    ∃ later, (follow ((List.range' done threads).flatMap fun thread =>
      List.replicate rounds thread) (List.replicate done 0 ++ List.replicate threads rounds)).run
        counter = .ok (List.replicate (done + threads) 0) later := by
  induction threads generalizing done counter with
  | zero => exact ⟨counter, by simp [follow]⟩
  | succ threads ih =>
    obtain ⟨between, finished⟩ :=
      follow_replicate (List.replicate done 0) (List.replicate threads rounds) rounds counter
    obtain ⟨later, finished'⟩ := ih (done + 1) between
    have shifted : List.replicate done 0 ++ 0 :: List.replicate threads rounds =
        List.replicate (done + 1) 0 ++ List.replicate threads rounds := by
      rw [List.replicate_succ', List.append_assoc]
      rfl
    rw [List.length_replicate, shifted] at finished
    refine ⟨later, ?_⟩
    rw [List.range'_succ, List.flatMap_cons, follow_append, EStateM.run_bind,
      List.replicate_succ, finished]
    rw [Nat.add_right_comm] at finished'
    exact finished'

/-- Contention for the lock loses no addition. -/
theorem contend_eq (threads rounds : Nat) (counter : LockedCounter) :
    (contend threads rounds).run counter =
      .ok (counter.value + UInt64.ofNat (threads * rounds))
        ⟨counter.value + UInt64.ofNat (threads * rounds)⟩ := by
  obtain ⟨later, finished⟩ := follow_range' 0 threads rounds counter
  obtain ⟨left, later', followed, total⟩ :=
    follow_total (oneByOne threads rounds) (List.replicate threads rounds) counter
  rw [List.replicate_zero, List.nil_append, ← List.range_eq_range'] at finished
  cases finished.symm.trans followed
  rw [List.sum_replicate_nat, List.sum_replicate_nat] at total
  have sum : later.value = counter.value + UInt64.ofNat (threads * rounds) := by
    simpa using total
  rw [contend, EStateM.run_bind, followed, ← sum]
  rfl

/-- Every schedule that lets all threads finish comes to the same. -/
theorem contend_of_schedule {schedule left : List Nat} {threads rounds : Nat}
    {counter later : LockedCounter}
    (followed : (follow schedule (List.replicate threads rounds)).run counter = .ok left later)
    (finished : left.sum = 0) :
    (contend threads rounds).run counter = .ok later.value later := by
  obtain ⟨left', later', followed', total⟩ :=
    follow_total schedule (List.replicate threads rounds) counter
  cases followed.symm.trans followed'
  rw [finished, List.sum_replicate_nat] at total
  have sum : later.value = counter.value + UInt64.ofNat (threads * rounds) := by
    simpa using total
  rw [contend_eq, ← sum]

end LockedCounter

end OpenFiles
