import OpenFiles.Console.ByteDevice

/-!
# A console in memory

A memory console has a queue of input bytes with a bounded size and keeps what
is written to it. While its input is not hung up, a read of the empty queue
would have to wait. Waiting is not modelled: such a read answers `busy` and
changes nothing. After the hang-up it fails for good.
-/

namespace OpenFiles

/-- A console whose two ends are in memory. -/
structure MemoryConsole where
  capacity : Nat
  input : Bytes
  output : Array UInt8
  hungUp : Bool
  deriving DecidableEq

namespace MemoryConsole

/-- A silent console with room for `capacity` bytes of input, but at least one. -/
def ofCapacity (capacity : Nat) : MemoryConsole where
  capacity := max capacity 1
  input := []
  output := #[]
  hungUp := false

/-- Queues input bytes as long as there is room, and answers how many. -/
def feed (console : MemoryConsole) (data : Bytes) : Nat × MemoryConsole :=
  let accepted := data.take (console.capacity - console.input.length)
  (accepted.length, { console with input := console.input ++ accepted })

def hangUp (console : MemoryConsole) : MemoryConsole := { console with hungUp := true }

def drain (console : MemoryConsole) : Bytes × MemoryConsole :=
  (console.output.toList, { console with output := #[] })

def readByte (console : MemoryConsole) : Except Error UInt8 × MemoryConsole :=
  match console.input with
  | byte :: rest => (.ok byte, { console with input := rest })
  | [] => (.error (if console.hungUp then .inputOutput else .busy), console)

def writeByte (byte : UInt8) (console : MemoryConsole) : Except Error Unit × MemoryConsole :=
  (.ok (), { console with output := console.output.push byte })

instance : ByteDevice MemoryConsole where
  readByte := readByte
  writeByte := writeByte

/-- A hung-up console with `data` as its input. -/
def recorded (data : Bytes) : MemoryConsole :=
  ((ofCapacity data.length).feed data).2.hangUp

/-- Everything written to a memory console is accepted. -/
theorem send_eq (data : Bytes) (console : MemoryConsole) :
    ByteDevice.send data console =
      ((data.length, none), { console with output := console.output ++ data.toArray }) := by
  induction data generalizing console with
  | nil => simp [ByteDevice.send]
  | cons byte rest ih =>
    simp [ByteDevice.send, ByteDevice.writeByte, writeByte, ih]

/-- What is fed in is queued behind what was there, up to the accepted count. -/
theorem input_feed (console : MemoryConsole) (data : Bytes) :
    (console.feed data).2.input = console.input ++ data.take (console.feed data).1 := by
  simp only [feed, List.length_take]
  rw [List.take_eq_take_min]

end MemoryConsole

end OpenFiles
