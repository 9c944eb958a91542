import OpenFiles.Console.ByteDevice

/-!
# A console that stops accepting

`Metered κ` is a console of type `κ` with an allowance: the number of bytes it
will still accept. Without an allowance it accepts what the bare console does.
Reads are not metered.
-/

namespace OpenFiles

/-- A console and the number of bytes that may still be written to it. -/
structure Metered (κ : Type) where
  device : κ
  allowance : Option Nat

namespace Metered

variable {κ : Type}

def unlimited (device : κ) : Metered κ := ⟨device, none⟩

def onDevice {α : Type} (request : κ → α × κ) (console : Metered κ) : α × Metered κ :=
  let (answer, device) := request console.device
  (answer, { console with device := device })

variable [ByteDevice κ]

/-- Writes to the bare console while the allowance lasts. -/
def writeByte (byte : UInt8) (console : Metered κ) : Except Error Unit × Metered κ :=
  match console.allowance with
  | some 0 => (.error .inputOutput, console)
  | allowance =>
    { console with allowance := allowance.map (· - 1) }.onDevice (ByteDevice.writeByte byte)

instance : ByteDevice (Metered κ) where
  readByte := onDevice ByteDevice.readByte
  writeByte := writeByte

end Metered

end OpenFiles
