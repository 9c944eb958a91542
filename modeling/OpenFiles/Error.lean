/-!
# Errors and their numbers

`Error` lists every reason for which the kernel refuses a request. A refusal is
an ordinary answer: it reaches the user program as a positive number in a
register, and `Error.number` is that number. The numbers are the usual POSIX
ones. Two errors share the number 9, so reading a number back cannot tell
`badAccessMode` from `badDescriptor`; `ofNumber?_number` says that this is the
only information lost.

Faults, the failed assertions of the kernel itself, are not errors. They are in
`OpenFiles.Fault`.
-/

namespace OpenFiles

/-- The reasons for which a request is refused. -/
inductive Error where
  | operationNotPermitted
  | noSuchEntry
  | inputOutput
  | badDescriptor
  | badAccessMode
  | noMemory
  | invalidAccess
  | badAddress
  | busy
  | fileExists
  | notDirectory
  | isDirectory
  | invalidArgument
  | tooManyOpenInSystem
  | tooManyOpen
  | noSpace
  | illegalSeek
  | nameTooLong
  | noSuchSyscall
  | directoryNotEmpty
  deriving DecidableEq

namespace Error

/-- The positive number reported to a user program. -/
def number : Error → Nat
  | operationNotPermitted => 1
  | noSuchEntry => 2
  | inputOutput => 5
  | badDescriptor => 9
  | badAccessMode => 9
  | noMemory => 12
  | invalidAccess => 13
  | badAddress => 14
  | busy => 16
  | fileExists => 17
  | notDirectory => 20
  | isDirectory => 21
  | invalidArgument => 22
  | tooManyOpenInSystem => 23
  | tooManyOpen => 24
  | noSpace => 28
  | illegalSeek => 29
  | nameTooLong => 36
  | noSuchSyscall => 38
  | directoryNotEmpty => 39

/-- The error a number stands for. The number 9 reads as `badDescriptor`. -/
def ofNumber? : Nat → Option Error
  | 1 => some operationNotPermitted
  | 2 => some noSuchEntry
  | 5 => some inputOutput
  | 9 => some badDescriptor
  | 12 => some noMemory
  | 13 => some invalidAccess
  | 14 => some badAddress
  | 16 => some busy
  | 17 => some fileExists
  | 20 => some notDirectory
  | 21 => some isDirectory
  | 22 => some invalidArgument
  | 23 => some tooManyOpenInSystem
  | 24 => some tooManyOpen
  | 28 => some noSpace
  | 29 => some illegalSeek
  | 36 => some nameTooLong
  | 38 => some noSuchSyscall
  | 39 => some directoryNotEmpty
  | _ => none

/-- The representative of the errors that share a number. -/
def canonical : Error → Error
  | badAccessMode => badDescriptor
  | e => e

def name : Error → String
  | operationNotPermitted => "OperationNotPermitted"
  | noSuchEntry => "NoSuchEntry"
  | inputOutput => "IOError"
  | badDescriptor => "BadFileDescriptor"
  | badAccessMode => "BadAccessMode"
  | noMemory => "NoMemory"
  | invalidAccess => "InvalidAccess"
  | badAddress => "BadAddress"
  | busy => "Busy"
  | fileExists => "FileExist"
  | notDirectory => "NotDirectory"
  | isDirectory => "IsDirectory"
  | invalidArgument => "InvalidArgument"
  | tooManyOpenInSystem => "TooManyOpenFileInSystem"
  | tooManyOpen => "TooManyOpenFile"
  | noSpace => "NoSpace"
  | illegalSeek => "IllegalSeek"
  | nameTooLong => "NameTooLong"
  | noSuchSyscall => "NoSuchSyscall"
  | directoryNotEmpty => "DirectoryNotEmpty"

/-- Every error, each once. -/
def all : List Error :=
  [operationNotPermitted, noSuchEntry, inputOutput, badDescriptor, badAccessMode, noMemory,
    invalidAccess, badAddress, busy, fileExists, notDirectory, isDirectory, invalidArgument,
    tooManyOpenInSystem, tooManyOpen, noSpace, illegalSeek, nameTooLong, noSuchSyscall,
    directoryNotEmpty]

def ofName? (word : String) : Option Error :=
  all.find? fun e => e.name == word

@[simp] theorem ofNumber?_number (e : Error) : ofNumber? e.number = some e.canonical := by
  cases e <;> rfl

theorem number_pos (e : Error) : 0 < e.number := by
  cases e <;> decide

end Error

end OpenFiles
