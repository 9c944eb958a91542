import OpenFiles.Action
import OpenFiles.UserSpace.AddressSpace

/-!
# Blocks of user memory

A `MemoryBlock` is a run of bytes at a fixed base. Addresses in the block may be
used in both directions, all others in neither. Room in it is handed out from
the base upwards and never taken back. A request for room that is not there is a
fault, and the block counts the room as handed out all the same.
-/

namespace OpenFiles

/-- A run of bytes and the next address to hand out. -/
structure MemoryBlock where
  bytes : Array UInt8
  next : Nat
  deriving DecidableEq

namespace MemoryBlock

def base : Nat := 0x40000000

/-- A block of `size` zero bytes, none of it handed out. -/
def ofSize (size : Nat) : MemoryBlock := ⟨Array.replicate size 0, base⟩

def limit (block : MemoryBlock) : Nat := base + block.bytes.size

def contains (block : MemoryBlock) (start stop : Nat) : Bool :=
  base ≤ start && start ≤ stop && stop ≤ block.limit

def fetch (block : MemoryBlock) (start length : Nat) : Except Error (Vector UInt8 length) :=
  if h : base ≤ start ∧ start + length ≤ block.limit then
    .ok ⟨block.bytes.extract (start - base) (start - base + length), by
      simp only [limit] at h
      simp only [Array.size_extract]
      omega⟩
  else .error .badAddress

def store (block : MemoryBlock) (start : Nat) (data : Bytes) : Except Error MemoryBlock :=
  if base ≤ start ∧ start + data.length ≤ block.limit then
    let before := block.bytes.extract 0 (start - base)
    let after := block.bytes.extract (start - base + data.length) block.bytes.size
    .ok { block with bytes := before ++ data.toArray ++ after }
  else .error .badAddress

instance : AddressSpace MemoryBlock where
  permits start stop _ block := (block.contains start stop, block)
  fetch start length block := (block.fetch start length, block)
  store start data block :=
    match block.store start data with
    | .ok after => (.ok (), after)
    | .error reason => (.error reason, block)

open OpenFiles.Action

/-- Hands out room for `length` bytes, at least one address of it. -/
def reserve (length : Nat) : Action MemoryBlock Nat := do
  let block ← get
  set { block with next := (block.next + max length 1) % wordLimit }
  if wordLimit ≤ block.next + length then
    fail .wordOverflow
  else if block.limit < block.next + length then
    fail .memoryExhausted
  else
    return block.next

def poke (start : Nat) (data : Bytes) : Action MemoryBlock Unit := do
  let block ← get
  let after ← orRefuse (block.store start data)
  set after

/-- Fetches bytes, which must be possible. -/
def peek (start length : Nat) : Action MemoryBlock Bytes :=
  expect do
    let block ← get
    let bytes ← orRefuse (block.fetch start length)
    return bytes.toList

/-- Hands out room for `data` and stores it there. -/
def deposit (data : Bytes) : Action MemoryBlock Nat := do
  let start ← reserve data.length
  expect (poke start data)
  return start

/-- Hands out room for text and a zero byte after it, and stores them there. -/
def depositText (text : String) : Action MemoryBlock Nat :=
  deposit (text.toUTF8.toList ++ [0])

@[simp] theorem limit_ofSize (size : Nat) : (ofSize size).limit = base + size := by
  simp [limit, ofSize]

/-- What may be used can be fetched. -/
theorem fetch_of_contains {block : MemoryBlock} {start length : Nat}
    (inside : block.contains start (start + length) = true) :
    ∃ bytes, block.fetch start length = .ok bytes := by
  simp only [contains, Bool.and_eq_true, decide_eq_true_eq] at inside
  exact ⟨_, dif_pos ⟨inside.1.1, inside.2⟩⟩

/-- What may be used can be stored to. -/
theorem store_of_contains {block : MemoryBlock} {start : Nat} {data : Bytes}
    (inside : block.contains start (start + data.length) = true) :
    ∃ after, block.store start data = .ok after := by
  simp only [contains, Bool.and_eq_true, decide_eq_true_eq] at inside
  exact ⟨_, if_pos ⟨inside.1.1, inside.2⟩⟩

end MemoryBlock

end OpenFiles
