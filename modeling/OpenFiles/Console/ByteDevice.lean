import OpenFiles.Error
import OpenFiles.Word

/-!
# Byte devices

A byte device delivers and accepts one byte at a time, and either may fail.
`ByteDevice.read` and `ByteDevice.write` move whole buffers over any such
device. Both stop at the first failure. The failure itself is answered only if
nothing was moved before it; otherwise the answer is what was moved. A read also
stops after a newline, which it delivers.

`take` and `send` say what crossed and what stopped the transfer. The two
transfers differ from them only in what they make of the failure. `fill` reads
into a buffer of the caller, and leaves alone what it does not store.
-/

namespace OpenFiles

/-- A device that moves single bytes. -/
class ByteDevice (κ : Type) where
  /-- Takes the next byte from the device. -/
  readByte : κ → Except Error UInt8 × κ
  /-- Hands a byte to the device. -/
  writeByte : UInt8 → κ → Except Error Unit × κ

namespace ByteDevice

variable {κ : Type} [ByteDevice κ]

def newline : UInt8 := 10

/-- Takes at most `room` bytes, up to and including a newline, together with the
failure that stopped the transfer, if one did. -/
def take : (room : Nat) → κ → (Bytes × Option Error) × κ
  | 0, device => (([], none), device)
  | room + 1, device =>
    match readByte device with
    | (.error reason, after) => (([], some reason), after)
    | (.ok byte, after) =>
      if byte = newline then (([byte], none), after)
      else
        let ((rest, failure), final) := take room after
        ((byte :: rest, failure), final)

/-- Hands over bytes in order, and answers how many were accepted, together with
the failure that stopped the transfer, if one did. -/
def send : Bytes → κ → (Nat × Option Error) × κ
  | [], device => ((0, none), device)
  | byte :: rest, device =>
    match writeByte byte device with
    | (.error reason, after) => ((0, some reason), after)
    | (.ok (), after) =>
      let ((count, failure), final) := send rest after
      ((count + 1, failure), final)

/-- Reads at most `room` bytes. -/
def read (room : Nat) (device : κ) : Except Error Bytes × κ :=
  match take room device with
  | (([], some reason), after) => (.error reason, after)
  | ((bytes, _), after) => (.ok bytes, after)

/-- Stores bytes in a buffer from a position on, up to and including a newline,
and answers the position behind the last one. A failure is answered only at
position 0. -/
def fillFrom (position : Nat) (buffer : Bytes) (device : κ) : (Except Error Nat × Bytes) × κ :=
  if position < buffer.length then
    match readByte device with
    | (.error reason, after) =>
      ((if position = 0 then .error reason else .ok position, buffer), after)
    | (.ok byte, after) =>
      let stored := buffer.set position byte
      if byte = newline then ((.ok (position + 1), stored), after)
      else fillFrom (position + 1) stored after
  else ((.ok position, buffer), device)
termination_by buffer.length - position

/-- Reads into a buffer, and answers how many bytes were stored there. -/
def fill (buffer : Bytes) (device : κ) : (Except Error Nat × Bytes) × κ :=
  fillFrom 0 buffer device

/-- Writes bytes and answers how many the device accepted. -/
def write (data : Bytes) (device : κ) : Except Error Nat × κ :=
  match send data device with
  | ((0, some reason), after) => (.error reason, after)
  | ((count, _), after) => (.ok count, after)

@[simp] theorem read_zero (device : κ) : read 0 device = (.ok [], device) := rfl

@[simp] theorem write_nil (device : κ) : write [] device = (.ok 0, device) := rfl

@[simp] theorem fill_nil (device : κ) : fill [] device = ((.ok 0, []), device) := by
  rw [fill, fillFrom]
  rfl

theorem length_take_le (room : Nat) (device : κ) : (take room device).1.1.length ≤ room := by
  induction room generalizing device with
  | zero => simp [take]
  | succ room ih =>
    unfold take
    split
    · simp
    · split
      · simp
      · simpa using ih _

theorem send_le_length (data : Bytes) (device : κ) : (send data device).1.1 ≤ data.length := by
  induction data generalizing device with
  | nil => simp [send]
  | cons byte rest ih =>
    unfold send
    split
    · simp
    · simpa using ih _

theorem write_le_length {data : Bytes} {device after : κ} {count : Nat}
    (answer : write data device = (.ok count, after)) : count ≤ data.length := by
  have within := send_le_length data device
  rw [write] at answer
  split at answer
  · cases answer
  · rename_i amount failure final _ sent
    rw [sent] at within
    cases answer
    exact within

end ByteDevice

end OpenFiles
