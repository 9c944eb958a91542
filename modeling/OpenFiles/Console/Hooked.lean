import OpenFiles.Console.MemoryConsole

/-!
# A console that can be hooked

While a hooked console has a hook, the hook is its input and takes its output.
A hook is a memory console whose input was recorded beforehand. Without one
there is no input, and what is written is echoed to the kernel's messages, each
byte as the character of that number.
-/

namespace OpenFiles

/-- A console that leads to a hook, if it has one. -/
structure Hooked where
  hook : Option MemoryConsole := none
  echo : Array UInt8 := #[]

namespace Hooked

/-- Hooks recorded input in, with no output yet. -/
def attach (console : Hooked) (data : Bytes) : Hooked :=
  { console with hook := some (MemoryConsole.recorded data) }

/-- Removes the hook and answers what was written to it. -/
def detach (console : Hooked) : Option Bytes × Hooked :=
  (console.hook.map (·.drain.1), { console with hook := none })

def readByte (console : Hooked) : Except Error UInt8 × Hooked :=
  match console.hook with
  | some hook =>
    let (answer, after) := hook.readByte
    (answer, { console with hook := some after })
  | none => (.error .inputOutput, console)

/-- Writes to the hook, or echoes. -/
def writeByte (byte : UInt8) (console : Hooked) : Except Error Unit × Hooked :=
  match console.hook with
  | some hook =>
    let (answer, after) := hook.writeByte byte
    (answer, { console with hook := some after })
  | none => (.ok (), { console with echo := console.echo.push byte })

instance : ByteDevice Hooked where
  readByte := readByte
  writeByte := writeByte

def echoText (bytes : Bytes) : String :=
  String.ofList (bytes.map fun byte => Char.ofNat byte.toNat)

def collect (console : Hooked) : String × Hooked :=
  (echoText console.echo.toList, { console with echo := #[] })

end Hooked

end OpenFiles
