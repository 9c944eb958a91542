import OpenFiles.FileTree.Basic

/-!
# Steps that a tree may refuse

A `TreeStep` changes the tree and answers, unless it is refused. Either way the
tree is the one reached so far: whatever a step did before the check that refuses
it stays done. That a refused request changes nothing is therefore a property of
the request, called `Atomic`. A request that asks everything first and only then
acts has it, and so does one that begins with an atomic step and then cannot
be refused any more.
-/

namespace OpenFiles

/-- A step on the tree that may be refused; the tree survives the refusal. -/
abbrev TreeStep (ε α : Type) : Type := EStateM ε FileTree α

namespace TreeStep

variable {ε ε' α β : Type}

def ask (question : FileTree → Except ε α) : TreeStep ε α := fun fs =>
  match question fs with
  | .ok value => .ok value fs
  | .error reason => .error reason fs

def act (f : FileTree → α × FileTree) : TreeStep ε α := fun fs => .ok (f fs).1 (f fs).2

/-- The answer of a step, and the tree that it leaves behind. -/
def outcome (step : TreeStep ε α) (fs : FileTree) : Except ε α × FileTree :=
  match step fs with
  | .ok value later => (.ok value, later)
  | .error reason later => (.error reason, later)

/-- The answer of a step with the tree that it makes, or the reason for which it is
refused. -/
def result (step : TreeStep ε α) (fs : FileTree) : Except ε (α × FileTree) :=
  match step fs with
  | .ok value later => .ok (value, later)
  | .error reason _ => .error reason

section Result

variable (fs : FileTree)

@[simp] theorem result_pure (value : α) : (pure value : TreeStep ε α).result fs = .ok (value, fs) :=
  rfl

@[simp] theorem result_get : (get : TreeStep ε FileTree).result fs = .ok (fs, fs) := rfl

@[simp] theorem result_throw (reason : ε) :
    (throw reason : TreeStep ε α).result fs = .error reason := rfl

@[simp] theorem result_act (f : FileTree → α × FileTree) :
    (act f : TreeStep ε α).result fs = .ok (f fs) := rfl

@[simp] theorem result_ask (question : FileTree → Except ε α) :
    (ask question).result fs = (question fs).map fun value => (value, fs) := by
  unfold result ask
  cases question fs <;> rfl

@[simp] theorem result_bind (step : TreeStep ε α) (next : α → TreeStep ε β) :
    (step >>= next).result fs =
      match step.result fs with
      | .ok (value, later) => (next value).result later
      | .error reason => .error reason := by
  change (match EStateM.bind step next fs with
    | .ok value later => Except.ok (value, later)
    | .error reason _ => .error reason) = _
  unfold EStateM.bind
  rw [result]
  cases step fs <;> rfl

@[simp] theorem result_ite (condition : Prop) [Decidable condition] (first second : TreeStep ε α) :
    (if condition then first else second).result fs =
      if condition then first.result fs else second.result fs := by
  split <;> rfl

@[simp] theorem result_adaptExcept (f : ε → ε') (step : TreeStep ε α) :
    TreeStep.result (EStateM.adaptExcept f step) fs = (step.result fs).mapError f := by
  unfold result EStateM.adaptExcept
  cases step fs <;> rfl

end Result

/-- A step that changes nothing, refused or not. -/
def Asks (step : TreeStep ε α) : Prop :=
  ∀ fs, (step.outcome fs).2 = fs

/-- A step that is never refused. -/
def Acts (step : TreeStep ε α) : Prop :=
  ∀ fs, ∃ value later, step fs = .ok value later

/-- A step that changes nothing if it is refused. -/
def Atomic (step : TreeStep ε α) : Prop :=
  ∀ fs reason later, step fs = .error reason later → later = fs

theorem asks_ask (question : FileTree → Except ε α) : Asks (ask question) := by
  intro fs
  unfold outcome ask
  cases question fs <;> rfl

theorem asks_get : Asks (get : TreeStep ε FileTree) := fun _ => rfl

theorem acts_pure (value : α) : Acts (pure value : TreeStep ε α) := fun _ => ⟨_, _, rfl⟩

theorem acts_act (f : FileTree → α × FileTree) : Acts (act f : TreeStep ε α) := fun _ =>
  ⟨_, _, rfl⟩

theorem atomic_refuse (reason : ε) : Atomic (throw reason : TreeStep ε α) := by
  intro fs _ later refused
  cases refused
  rfl

theorem Acts.atomic {step : TreeStep ε α} (acts : Acts step) : Atomic step := by
  intro fs reason later refused
  obtain ⟨value, made, granted⟩ := acts fs
  rw [granted] at refused
  cases refused

theorem Acts.bind {step : TreeStep ε α} {next : α → TreeStep ε β} (first : Acts step)
    (second : ∀ value, Acts (next value)) : Acts (step >>= next) := by
  intro fs
  obtain ⟨value, made, granted⟩ := first fs
  obtain ⟨answer, later, granted'⟩ := second value made
  refine ⟨answer, later, ?_⟩
  change EStateM.bind step next fs = _
  rw [EStateM.bind, granted]
  exact granted'

theorem Asks.atomic {step : TreeStep ε α} (asks : Asks step) : Atomic step := by
  intro fs reason later refused
  have unchanged := asks fs
  rw [outcome, refused] at unchanged
  exact unchanged

/-- Two steps are atomic together if the second is granted whenever the first has
changed something. -/
theorem Atomic.bind {step : TreeStep ε α} {next : α → TreeStep ε β} (first : Atomic step)
    (second : ∀ value, Atomic (next value))
    (granted : ∀ fs value made, step fs = .ok value made →
      made = fs ∨ ∃ answer later, next value made = .ok answer later) :
    Atomic (step >>= next) := by
  intro fs reason later refused
  change EStateM.bind step next fs = _ at refused
  unfold EStateM.bind at refused
  cases answer : step fs with
  | error reason' same =>
    rw [answer] at refused
    cases refused
    exact first fs _ _ answer
  | ok value made =>
    rw [answer] at refused
    dsimp only at refused
    rcases granted fs value made answer with same | ⟨_, _, success⟩
    · rw [same] at refused
      exact second value fs reason later refused
    · rw [success] at refused
      cases refused

/-- What asks first is atomic if what follows is. -/
theorem Asks.bind {step : TreeStep ε α} {next : α → TreeStep ε β} (asks : Asks step)
    (atomic : ∀ value, Atomic (next value)) : Atomic (step >>= next) := by
  refine asks.atomic.bind atomic fun fs value made answer => .inl ?_
  have unchanged := asks fs
  rw [outcome, answer] at unchanged
  exact unchanged

/-- After an atomic step may come what cannot be refused. -/
theorem Atomic.bind_acts {step : TreeStep ε α} {next : α → TreeStep ε β} (atomic : Atomic step)
    (acts : ∀ value, Acts (next value)) : Atomic (step >>= next) :=
  atomic.bind (fun value => (acts value).atomic) fun _ value made _ => .inr (acts value made)

theorem Atomic.adaptExcept {step : TreeStep ε α} (atomic : Atomic step) (f : ε → ε') :
    Atomic (EStateM.adaptExcept f step) := by
  intro fs reason later refused
  unfold EStateM.adaptExcept at refused
  cases answer : step fs with
  | ok value made =>
    rw [answer] at refused
    cases refused
  | error reason' same =>
    rw [answer] at refused
    cases refused
    exact atomic fs _ _ answer

/-- The outcome of an atomic step: a refusal comes with the tree as it was. -/
theorem Atomic.outcome_eq {step : TreeStep ε α} (atomic : Atomic step) (fs : FileTree) :
    step.outcome fs =
      match step.result fs with
      | .ok (value, later) => (.ok value, later)
      | .error reason => (.error reason, fs) := by
  unfold outcome result
  cases answer : step fs with
  | ok value later => rfl
  | error reason later => rw [atomic fs reason later answer]

end TreeStep

end OpenFiles
