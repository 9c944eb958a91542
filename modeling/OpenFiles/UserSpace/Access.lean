import OpenFiles.Action
import OpenFiles.UserSpace.AddressSpace

/-!
# Checked access to user memory

Every access names a whole range and asks the address space about it before
anything is copied. A range that wraps around the end of the words, starts at
address 0 or is refused by the address space makes the access fail with
`badAddress`. An access to no bytes at all asks nothing and copies nothing.
-/

namespace OpenFiles

namespace UserSpace

variable {μ : Type} [AddressSpace μ]

open OpenFiles.Action

def requireRange (start length : Nat) (direction : Direction) : Action μ Unit := do
  if wordLimit ≤ start + length ∨ start = 0 then
    refuse .badAddress
  else
    let permitted ← step (AddressSpace.permits start (start + length) direction)
    if permitted then
      return ()
    else
      refuse .badAddress

def fetchChecked (start length : Nat) : Action μ Bytes := do
  let answer ← step (AddressSpace.fetch start length)
  let bytes ← orRefuse answer
  return bytes.toList

def loadValue (start size : Nat) : Action μ Bytes := do
  requireRange start size .fetch
  fetchChecked start size

/-- Loads a buffer, if memory grants a copy of it: less than `granted` bytes. -/
def loadBuffer (start length : Nat) (granted : Nat := allocationLimit) : Action μ Bytes := do
  if length = 0 then
    return []
  else
    requireRange start length .fetch
    if granted ≤ length then
      refuse .noMemory
    else
      fetchChecked start length

/-- Refuses a buffer that may not be stored to. -/
def requireBuffer (start length : Nat) : Action μ Unit := do
  if length = 0 then
    return ()
  else
    requireRange start length .store

/-- Stores as much of `data` as a buffer of `length` bytes holds, and answers how
much that is. The whole buffer has to be usable, also the part that stays as it
is. -/
def storeBuffer (start length : Nat) (data : Bytes) : Action μ Nat := do
  let stored := data.take length
  if stored = [] then
    return 0
  else
    requireRange start length .store
    let answer ← step (AddressSpace.store start stored)
    orRefuse answer
    return stored.length

/-- Loads bytes up to a zero byte, one at a time. If there are more than `room`
of them the first one too many is refused. -/
def loadUntilZero : (room start : Nat) → Action μ Bytes
  | room, start => do
    match ← loadValue start 1 with
    | [] => return []
    | byte :: _ =>
      if byte = 0 then
        return []
      else
        match room with
        | 0 => refuse .nameTooLong
        | room + 1 =>
          if wordLimit ≤ start + 1 then
            refuse .badAddress
          else
            let rest ← loadUntilZero room (start + 1)
            return byte :: rest

/-- The text that bytes encode, if they encode any. -/
def decodeText? (bytes : Bytes) : Option String :=
  String.fromUTF8? (ByteArray.mk bytes.toArray)

/-- Loads text of at most `room` bytes that ends before a zero byte. -/
def loadText (room start : Nat) : Action μ String := do
  let bytes ← loadUntilZero room start
  match decodeText? bytes with
  | some text => return text
  | none => refuse .invalidArgument

end UserSpace

/-- The width and sign of a number in user memory. -/
structure ScalarType where
  size : Nat
  signed : Bool
  deriving DecidableEq

/-- The number that the bytes of a scalar stand for. -/
def ScalarType.decode (type : ScalarType) (bytes : Bytes) : Int :=
  if type.signed then twosComplement (8 * type.size) (littleEndian bytes)
  else littleEndian bytes

def UserSpace.loadScalar {μ : Type} [AddressSpace μ] (type : ScalarType) (start : Nat) :
    Action μ Int := do
  let bytes ← loadValue start type.size
  return type.decode bytes

end OpenFiles
