import OpenFiles.Proofs.UserSpace.Recorded

/-!
# Watching changes nothing

An action is seen `Through` a function of its state if it looks the same from there: same answer,
same stop, and the seen state of the end is the end of the seen state. The checked accesses look
the same when their record is forgotten, so what a record says of a recorded run is true
of the run without it.
-/

namespace OpenFiles

namespace Action

variable {s t α β : Type} {see : s → t}

def seen (see : s → t) : EStateM.Result Stop s α → EStateM.Result Stop t α
  | .ok value after => .ok value (see after)
  | .error stop after => .error stop (see after)

/-- Through `see`, one action looks like the other. -/
def Through (see : s → t) (action : Action s α) (plain : Action t α) : Prop :=
  ∀ state, seen see (action.run state) = plain.run (see state)

theorem through_pure (value : α) : Through see (pure value) (pure value) := fun _ => rfl

theorem through_refuse (reason : Error) : Through (α := α) see (refuse reason) (refuse reason) :=
  fun _ => rfl

theorem through_orRefuse (answer : Except Error α) :
    Through see (orRefuse answer) (orRefuse answer) := by
  cases answer with
  | ok value => exact through_pure value
  | error reason => exact through_refuse reason

/-- What looks the same step by step looks the same. -/
theorem Through.bind {action : Action s α} {plain : Action t α} {next : α → Action s β}
    {next' : α → Action t β} (first : Through see action plain)
    (second : ∀ value, Through see (next value) (next' value)) :
    Through see (action >>= next) (plain >>= next') := by
  intro state
  rw [EStateM.run_bind, EStateM.run_bind, ← first state]
  cases action.run state with
  | ok value after => exact second value after
  | error stop after => rfl

theorem Through.attempt {action : Action s α} {plain : Action t α}
    (first : Through see action plain) : Through see (attempt action) (attempt plain) := by
  intro state
  have same : seen see (action state) = plain (see state) := first state
  change seen see (Action.attempt action state) = Action.attempt plain (see state)
  rw [Action.attempt, Action.attempt, ← same]
  cases action state with
  | ok value after => rfl
  | error stop after => cases stop <;> rfl

end Action

namespace UserSpace

open OpenFiles.Action

variable {μ : Type} [AddressSpace μ]

/-- The check of a range asks what it would ask without a record. -/
theorem through_requireRange (start length : Nat) (direction : Direction) :
    Through Recorded.space (requireRange start length direction)
      (requireRange start length direction : Action μ Unit) := by
  rw [requireRange, requireRange]
  by_cases unasked : wordLimit ≤ start + length ∨ start = 0
  · rw [if_pos unasked, if_pos unasked]
    exact through_refuse .badAddress
  · rw [if_neg unasked, if_neg unasked]
    refine Through.bind (fun _ => rfl) fun permitted => ?_
    cases permitted with
    | true => exact through_pure ()
    | false => exact through_refuse .badAddress

theorem through_fetchChecked (start length : Nat) :
    Through Recorded.space (fetchChecked start length) (fetchChecked start length : Action μ _) :=
  Through.bind (fun _ => rfl) fun answer => (through_orRefuse answer).bind fun _ => through_pure _

theorem through_loadValue (start size : Nat) :
    Through Recorded.space (loadValue start size) (loadValue start size : Action μ _) :=
  (through_requireRange start size .fetch).bind fun _ => through_fetchChecked start size

theorem through_loadBuffer (start length granted : Nat) :
    Through Recorded.space (loadBuffer start length granted)
      (loadBuffer start length granted : Action μ _) := by
  rw [loadBuffer, loadBuffer]
  split
  · exact through_pure []
  · refine (through_requireRange start length .fetch).bind fun _ => ?_
    split
    · exact through_refuse .noMemory
    · exact through_fetchChecked start length

theorem through_requireBuffer (start length : Nat) :
    Through Recorded.space (requireBuffer start length)
      (requireBuffer start length : Action μ _) := by
  rw [requireBuffer, requireBuffer]
  split
  · exact through_pure ()
  · exact through_requireRange start length .store

theorem through_storeBuffer (start length : Nat) (data : Bytes) :
    Through Recorded.space (storeBuffer start length data)
      (storeBuffer start length data : Action μ _) := by
  rw [storeBuffer, storeBuffer]
  split
  · exact through_pure 0
  · refine (through_requireRange start length .store).bind fun _ => ?_
    exact Through.bind (fun _ => rfl) fun answer =>
      (through_orRefuse answer).bind fun _ => through_pure _

theorem through_loadUntilZero (room start : Nat) :
    Through Recorded.space (loadUntilZero room start)
      (loadUntilZero room start : Action μ _) := by
  induction room generalizing start with
  | zero =>
    rw [loadUntilZero, loadUntilZero]
    refine (through_loadValue start 1).bind fun bytes => ?_
    cases bytes with
    | nil => exact through_pure []
    | cons byte others =>
      dsimp only
      split
      · exact through_pure []
      · exact through_refuse .nameTooLong
  | succ room ih =>
    rw [loadUntilZero, loadUntilZero]
    refine (through_loadValue start 1).bind fun bytes => ?_
    cases bytes with
    | nil => exact through_pure []
    | cons byte others =>
      dsimp only
      split
      · exact through_pure []
      · split
        · exact through_refuse .badAddress
        · exact (ih (start + 1)).bind fun _ => through_pure _

theorem through_loadText (room start : Nat) :
    Through Recorded.space (loadText room start) (loadText room start : Action μ _) := by
  refine (through_loadUntilZero room start).bind fun bytes => ?_
  cases decodeText? bytes with
  | none => exact through_refuse .invalidArgument
  | some text => exact through_pure text

end UserSpace

end OpenFiles
