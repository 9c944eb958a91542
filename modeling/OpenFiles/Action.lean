import OpenFiles.Fault

/-!
# Actions: steps that may stop

An `Action s α` transforms a state of type `s` and answers with an `α`, unless
it stops first. It stops for one of two reasons: the request is refused, or an
assertion fails. Either way the state is the one reached so far. Nothing is
rolled back, so an operation that promises to leave no trace of a refused
request has to undo its own steps.
-/

namespace OpenFiles

/-- Why an action stopped. -/
inductive Stop where
  | refused (reason : Error)
  | faulted (fault : Fault)
  deriving DecidableEq

/-- A state transformer that may stop; the state survives the stop. -/
abbrev Action (s α : Type) : Type := EStateM Stop s α

namespace Action

variable {s t α : Type}

def refuse (reason : Error) : Action s α := fun state => .error (.refused reason) state

def fail (fault : Fault) : Action s α := fun state => .error (.faulted fault) state

/-- Answers with a result that may be a refusal. -/
def orRefuse : Except Error α → Action s α
  | .ok value => pure value
  | .error reason => refuse reason

def orFail : Except Fault α → Action s α
  | .ok value => pure value
  | .error fault => fail fault

def step (f : s → α × s) : Action s α := fun state => .ok (f state).1 (f state).2

/-- Runs an action on a part of the state. -/
def zoom (part : s → t) (replace : s → t → s) (action : Action t α) : Action s α := fun state =>
  match action (part state) with
  | .ok value inner => .ok value (replace state inner)
  | .error stop inner => .error stop (replace state inner)

/-- The answer and the state after running an action, with a stop as a value. -/
def outcome (action : Action s α) (state : s) : Except Stop α × s :=
  match action state with
  | .ok value after => (.ok value, after)
  | .error stop after => (.error stop, after)

/-- Runs an action and answers its refusal as a value; a fault stops as before. -/
def attempt (action : Action s α) : Action s (Except Error α) := fun state =>
  match action state with
  | .ok value after => .ok (.ok value) after
  | .error (.refused reason) after => .ok (.error reason) after
  | .error (.faulted fault) after => .error (.faulted fault) after

/-- Runs an action for which no refusal is provided: a refusal becomes a fault. -/
def expect (action : Action s α) : Action s α := fun state =>
  match action state with
  | .ok value after => .ok value after
  | .error (.refused reason) after => .error (.faulted (.unexpectedRefusal reason)) after
  | .error (.faulted fault) after => .error (.faulted fault) after

@[simp] theorem run_refuse (reason : Error) (state : s) :
    (refuse reason : Action s α).run state = .error (.refused reason) state := rfl

@[simp] theorem run_fail (fault : Fault) (state : s) :
    (fail fault : Action s α).run state = .error (.faulted fault) state := rfl

@[simp] theorem orRefuse_ok (value : α) : (orRefuse (.ok value) : Action s α) = pure value := rfl

@[simp] theorem orRefuse_error (reason : Error) :
    (orRefuse (.error reason) : Action s α) = refuse reason := rfl

@[simp] theorem orFail_ok (value : α) : (orFail (.ok value) : Action s α) = pure value := rfl

@[simp] theorem orFail_error (fault : Fault) :
    (orFail (.error fault) : Action s α) = fail fault := rfl

@[simp] theorem run_step (f : s → α × s) (state : s) :
    (step f).run state = .ok (f state).1 (f state).2 := rfl

end Action

end OpenFiles
