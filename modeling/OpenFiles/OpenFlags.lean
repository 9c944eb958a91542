import OpenFiles.Error

/-!
# What a user program asks for when it opens or seeks

The raw words of a request become values here. `OpenFlags` is the flag word of
an open; its two low bits name a direction and one of their four values names
none, so a flag word can be free of unknown bits and still ask for no
direction. `Rights` is what remains of the flags for the lifetime of an open
file. `SeekBase` is the base of a seek.
-/

namespace OpenFiles

/-- The directions an open can ask for. -/
inductive OpenMode where
  | read
  | write
  | readWrite
  deriving DecidableEq

namespace OpenMode

def ofNumber? : Nat → Option OpenMode
  | 0 => some read
  | 1 => some write
  | 2 => some readWrite
  | _ => none

def readable : OpenMode → Bool
  | read => true
  | write => false
  | readWrite => true

def writable : OpenMode → Bool
  | read => false
  | write => true
  | readWrite => true

def name : OpenMode → String
  | read => "Read"
  | write => "Write"
  | readWrite => "ReadWrite"

end OpenMode

inductive SeekBase where
  | start
  | current
  | finish
  deriving DecidableEq

namespace SeekBase

def ofNumber? : Nat → Option SeekBase
  | 0 => some start
  | 1 => some current
  | 2 => some finish
  | _ => none

def number : SeekBase → Nat
  | start => 0
  | current => 1
  | finish => 2

def name : SeekBase → String
  | start => "Set"
  | current => "Current"
  | finish => "End"

@[simp] theorem ofNumber?_number (whence : SeekBase) :
    ofNumber? whence.number = some whence := by
  cases whence <;> rfl

end SeekBase

/-- The flag word of an open, bit by bit. The access field holds the two low
bits; its value 3 asks for no direction. -/
structure OpenFlags where
  access : Fin 4
  create : Bool
  exclusive : Bool
  truncate : Bool
  append : Bool
  noTerminal : Bool
  deriving DecidableEq

namespace OpenFlags

/-- The first flag word with an unknown bit. -/
def knownLimit : Nat := 128

/-- The flags of a word, whose unknown bits are dropped. -/
def ofBits (raw : Nat) : OpenFlags where
  access := Fin.ofNat 4 raw
  create := raw / 4 % 2 = 1
  exclusive := raw / 8 % 2 = 1
  truncate := raw / 16 % 2 = 1
  append := raw / 32 % 2 = 1
  noTerminal := raw / 64 % 2 = 1

def bits (flags : OpenFlags) : Nat :=
  flags.access + 4 * flags.create.toNat + 8 * flags.exclusive.toNat +
    16 * flags.truncate.toNat + 32 * flags.append.toNat + 64 * flags.noTerminal.toNat

def openMode (flags : OpenFlags) : Except Error OpenMode :=
  match OpenMode.ofNumber? flags.access with
  | some mode => .ok mode
  | none => .error .invalidArgument

/-- The flags of a raw word. An unknown bit and a missing direction are both
refused. -/
def parse (raw : Nat) : Except Error OpenFlags :=
  if knownLimit ≤ raw then .error .invalidArgument
  else
    match (ofBits raw).openMode with
    | .ok _ => .ok (ofBits raw)
    | .error reason => .error reason

theorem ofBits_bits (flags : OpenFlags) : ofBits flags.bits = flags := by
  obtain ⟨access, create, exclusive, truncate, append, noTerminal⟩ := flags
  revert access
  cases create <;> cases exclusive <;> cases truncate <;> cases append <;> cases noTerminal <;>
    decide

end OpenFlags

/-- What a descriptor may be used for, fixed when its file was opened. -/
structure Rights where
  read : Bool
  write : Bool
  append : Bool
  deriving DecidableEq

namespace Rights

def reading : Rights := ⟨true, false, false⟩

def writing : Rights := ⟨false, true, false⟩

/-- The rights with the given bits, whose unknown bits are dropped. -/
def ofBits (raw : Nat) : Rights where
  read := raw % 2 = 1
  write := raw / 2 % 2 = 1
  append := raw / 4 % 2 = 1

def bits (rights : Rights) : Nat :=
  rights.read.toNat + 2 * rights.write.toNat + 4 * rights.append.toNat

/-- Whether `rights` include everything in `asked`. -/
def cover (rights asked : Rights) : Bool :=
  (!asked.read || rights.read) && (!asked.write || rights.write) &&
    (!asked.append || rights.append)

/-- The rights that the flags of an open ask for. -/
def ofOpenFlags (flags : OpenFlags) : Except Error Rights :=
  match flags.openMode with
  | .ok mode => .ok ⟨mode.readable, mode.writable, flags.append⟩
  | .error reason => .error reason

@[simp] theorem cover_reading (rights : Rights) : rights.cover reading = rights.read := by
  cases rights
  simp [cover, reading]

@[simp] theorem cover_writing (rights : Rights) : rights.cover writing = rights.write := by
  cases rights
  simp [cover, writing]

theorem ofBits_bits (rights : Rights) : ofBits rights.bits = rights := by
  obtain ⟨read, write, append⟩ := rights
  cases read <;> cases write <;> cases append <;> rfl

end Rights

end OpenFiles
