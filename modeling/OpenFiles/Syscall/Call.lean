/-!
# The system calls

A user program asks for a call by number. The numbers from 1 to 11 are taken.
-/

namespace OpenFiles

/-- The calls a user program can make. -/
inductive Call where
  | openPath
  | read
  | write
  | seek
  | close
  | duplicate
  | workingDirectory
  | remove
  | fork
  | getPid
  | exit
  deriving DecidableEq

namespace Call

def ofNumber? : Nat → Option Call
  | 1 => some openPath
  | 2 => some read
  | 3 => some write
  | 4 => some seek
  | 5 => some close
  | 6 => some duplicate
  | 7 => some workingDirectory
  | 8 => some remove
  | 9 => some fork
  | 10 => some getPid
  | 11 => some exit
  | _ => none

def number : Call → Nat
  | openPath => 1
  | read => 2
  | write => 3
  | seek => 4
  | close => 5
  | duplicate => 6
  | workingDirectory => 7
  | remove => 8
  | fork => 9
  | getPid => 10
  | exit => 11

def name : Call → String
  | openPath => "Open"
  | read => "Read"
  | write => "Write"
  | seek => "Lseek"
  | close => "Close"
  | duplicate => "Dup2"
  | workingDirectory => "Getcwd"
  | remove => "Remove"
  | fork => "Fork"
  | getPid => "Getpid"
  | exit => "Exit"

@[simp] theorem ofNumber?_number (call : Call) : ofNumber? call.number = some call := by
  cases call <;> rfl

theorem ofNumber?_eq_none {n : Nat} (h : n = 0 ∨ 11 < n) : ofNumber? n = none := by
  unfold ofNumber?
  split
  case h_12 => rfl
  all_goals omega

end Call

end OpenFiles
