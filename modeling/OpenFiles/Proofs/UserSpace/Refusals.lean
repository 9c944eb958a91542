import OpenFiles.UserSpace.Access

/-!
# Checked accesses are refused at worst

Nothing that a user program passes in makes the access to its memory stop with a fault, whatever
the address space answers.
-/

namespace OpenFiles

namespace Action

variable {s α β : Type} {state : s}

/-- An action that never stops with a fault. -/
def Faultless (action : Action s α) : Prop :=
  ∀ state fault after, action.run state ≠ .error (.faulted fault) after

theorem faultless_pure (value : α) : Faultless (pure value : Action s α) := by
  intro state fault after faulted
  cases faulted

theorem faultless_refuse (reason : Error) : Faultless (refuse reason : Action s α) := by
  intro state fault after faulted
  cases faulted

theorem faultless_step (f : s → α × s) : Faultless (step f) := by
  intro state fault after faulted
  cases faulted

theorem faultless_orRefuse (answer : Except Error α) :
    Faultless (orRefuse answer : Action s α) := by
  cases answer with
  | ok value => exact faultless_pure value
  | error reason => exact faultless_refuse reason

theorem Faultless.bind {action : Action s α} {next : α → Action s β} (first : Faultless action)
    (second : ∀ value, Faultless (next value)) : Faultless (action >>= next) := by
  intro state fault after faulted
  rw [EStateM.run_bind] at faulted
  cases result : action.run state with
  | ok value middle =>
      rw [result] at faulted
      exact second value middle fault after faulted
  | error stop middle =>
      rw [result] at faulted
      cases faulted
      exact first state fault after result

/-- An action that never stops with a fault gets through or is refused. -/
theorem Faultless.ok_or_refused {action : Action s α} (faultless : Faultless action) (state : s) :
    (∃ value after, action.run state = .ok value after) ∨
      ∃ reason after, action.run state = .error (.refused reason) after := by
  cases result : action.run state with
  | ok value after => exact .inl ⟨value, after, rfl⟩
  | error stop after =>
    cases stop with
    | refused reason => exact .inr ⟨reason, after, rfl⟩
    | faulted fault => exact absurd result (faultless state fault after)

end Action

namespace UserSpace

open OpenFiles.Action

variable {μ : Type} [AddressSpace μ]

theorem faultless_requireRange (start length : Nat) (direction : Direction) :
    Faultless (requireRange start length direction : Action μ Unit) := by
  unfold requireRange
  split
  · exact faultless_refuse .badAddress
  · refine (faultless_step _).bind fun permitted => ?_
    split
    · exact faultless_pure ()
    · exact faultless_refuse .badAddress

theorem faultless_fetchChecked (start length : Nat) :
    Faultless (fetchChecked start length : Action μ Bytes) :=
  (faultless_step _).bind fun answer =>
    (faultless_orRefuse answer).bind fun _ => faultless_pure _

theorem faultless_loadBuffer (start length granted : Nat) :
    Faultless (loadBuffer start length granted : Action μ Bytes) := by
  unfold loadBuffer
  split
  · exact faultless_pure []
  · refine (faultless_requireRange start length .fetch).bind fun _ => ?_
    split
    · exact faultless_refuse .noMemory
    · exact faultless_fetchChecked start length

theorem faultless_requireBuffer (start length : Nat) :
    Faultless (requireBuffer start length : Action μ Unit) := by
  unfold requireBuffer
  split
  · exact faultless_pure ()
  · exact faultless_requireRange start length .store

theorem faultless_storeBuffer (start length : Nat) (data : Bytes) :
    Faultless (storeBuffer start length data : Action μ Nat) := by
  unfold storeBuffer
  dsimp only
  split
  · exact faultless_pure 0
  · refine (faultless_requireRange start length .store).bind fun _ => ?_
    exact (faultless_step _).bind fun answer =>
      (faultless_orRefuse answer).bind fun _ => faultless_pure _

theorem faultless_loadUntilZero (room start : Nat) :
    Faultless (loadUntilZero room start : Action μ Bytes) := by
  have byte (start : Nat) : Faultless (loadValue start 1 : Action μ Bytes) :=
    (faultless_requireRange start 1 .fetch).bind fun _ => faultless_fetchChecked start 1
  induction room generalizing start with
  | zero =>
    rw [loadUntilZero]
    refine (byte start).bind fun bytes => ?_
    split
    · exact faultless_pure []
    · split
      · exact faultless_pure []
      · exact faultless_refuse .nameTooLong
  | succ room ih =>
    rw [loadUntilZero]
    refine (byte start).bind fun bytes => ?_
    split
    · exact faultless_pure []
    · split
      · exact faultless_pure []
      · dsimp only
        split
        · exact faultless_refuse .badAddress
        · exact (ih (start + 1)).bind fun _ => faultless_pure _

theorem faultless_loadText (room start : Nat) :
    Faultless (loadText room start : Action μ String) := by
  refine (faultless_loadUntilZero room start).bind fun bytes => ?_
  cases decodeText? bytes with
  | none => exact faultless_refuse .invalidArgument
  | some text => exact faultless_pure text

end UserSpace

end OpenFiles
