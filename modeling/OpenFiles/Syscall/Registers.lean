import OpenFiles.Error
import OpenFiles.Fault
import OpenFiles.Word

/-!
# The register frame of a system call

A user program puts the number of a call into `rax` and its arguments into six
other registers. The kernel answers in two: `rax` holds 0 or an error number,
and `rdx` holds the result, or the greatest word if there is none. No other
register changes. `answer` reads it back.
-/

namespace OpenFiles

/-- The general purpose registers of a user program. -/
structure Registers where
  r15 : UInt64 := 0
  r14 : UInt64 := 0
  r13 : UInt64 := 0
  r12 : UInt64 := 0
  r11 : UInt64 := 0
  r10 : UInt64 := 0
  r9 : UInt64 := 0
  r8 : UInt64 := 0
  rsi : UInt64 := 0
  rdi : UInt64 := 0
  rbp : UInt64 := 0
  rdx : UInt64 := 0
  rcx : UInt64 := 0
  rbx : UInt64 := 0
  rax : UInt64 := 0
  deriving DecidableEq

/-- The six argument words of a system call. -/
structure Arguments where
  first : UInt64 := 0
  second : UInt64 := 0
  third : UInt64 := 0
  fourth : UInt64 := 0
  fifth : UInt64 := 0
  sixth : UInt64 := 0
  deriving DecidableEq

namespace Arguments

/-- The arguments from a list; missing ones are 0. -/
def ofList (words : List UInt64) : Arguments where
  first := words.getD 0 0
  second := words.getD 1 0
  third := words.getD 2 0
  fourth := words.getD 3 0
  fifth := words.getD 4 0
  sixth := words.getD 5 0

def toList (arguments : Arguments) : List UInt64 :=
  [arguments.first, arguments.second, arguments.third, arguments.fourth, arguments.fifth,
    arguments.sixth]

end Arguments

namespace Registers

/-- The frame with which a program makes a call. -/
def ofCall (number : UInt64) (arguments : Arguments) : Registers where
  rax := number
  rdi := arguments.first
  rsi := arguments.second
  rdx := arguments.third
  r10 := arguments.fourth
  r8 := arguments.fifth
  r9 := arguments.sixth

def callNumber (frame : Registers) : UInt64 := frame.rax

def arguments (frame : Registers) : Arguments where
  first := frame.rdi
  second := frame.rsi
  third := frame.rdx
  fourth := frame.r10
  fifth := frame.r8
  sixth := frame.r9

/-- The word that stands for no result. -/
def noResult : UInt64 := 0 - 1

def withAnswer (frame : Registers) : Except Error UInt64 → Registers
  | .ok value => { frame with rax := 0, rdx := value }
  | .error reason => { frame with rax := UInt64.ofNat reason.number, rdx := noResult }

/-- Reads the answer in a frame back. An error register that holds no error
number is a fault. -/
def answer (frame : Registers) : Except Fault (Except Error UInt64) :=
  if frame.rax = 0 then .ok (.ok frame.rdx)
  else
    match Error.ofNumber? frame.rax.toNat with
    | some reason => .ok (.error reason)
    | none => .error (.unknownErrorNumber frame.rax)

@[simp] theorem callNumber_ofCall (number : UInt64) (arguments : Arguments) :
    (ofCall number arguments).callNumber = number := rfl

@[simp] theorem arguments_ofCall (number : UInt64) (args : Arguments) :
    (ofCall number args).arguments = args := rfl

@[simp] theorem answer_withAnswer_ok (frame : Registers) (value : UInt64) :
    (frame.withAnswer (.ok value)).answer = .ok (.ok value) := rfl

/-- An error comes back as itself, up to the one number that two errors share. -/
@[simp] theorem answer_withAnswer_error (frame : Registers) (reason : Error) :
    (frame.withAnswer (.error reason)).answer = .ok (.error reason.canonical) := by
  cases reason <;> rfl

end Registers

end OpenFiles
