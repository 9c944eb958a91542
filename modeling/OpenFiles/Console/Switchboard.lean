import OpenFiles.Console.Hooked
import OpenFiles.Console.Metered

/-!
# The two consoles of a kernel

A kernel is wired to one of two consoles: a metered memory console, or one that
can be hooked. Both are there, whichever it is wired to.
-/

namespace OpenFiles

/-- Which console a kernel is wired to. -/
inductive Wiring where
  | metered
  | hooked
  deriving DecidableEq

/-- Two consoles and the choice between them. -/
structure Switchboard where
  wiring : Wiring
  metered : Metered MemoryConsole
  hooked : Hooked

namespace Switchboard

variable {α : Type}

def onMetered (request : Metered MemoryConsole → α × Metered MemoryConsole)
    (board : Switchboard) : α × Switchboard :=
  let (answer, console) := request board.metered
  (answer, { board with metered := console })

def onHooked (request : Hooked → α × Hooked) (board : Switchboard) : α × Switchboard :=
  let (answer, console) := request board.hooked
  (answer, { board with hooked := console })

def readByte (board : Switchboard) : Except Error UInt8 × Switchboard :=
  match board.wiring with
  | .metered => board.onMetered ByteDevice.readByte
  | .hooked => board.onHooked ByteDevice.readByte

def writeByte (byte : UInt8) (board : Switchboard) : Except Error Unit × Switchboard :=
  match board.wiring with
  | .metered => board.onMetered (ByteDevice.writeByte byte)
  | .hooked => board.onHooked (ByteDevice.writeByte byte)

instance : ByteDevice Switchboard where
  readByte := readByte
  writeByte := writeByte

end Switchboard

end OpenFiles
