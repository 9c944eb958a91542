import OpenFiles.Session.Basic

/-!
# Starting a session

There are two ways to start. `boot` gives a session over a new file tree, wired
to a metered console, in which outages are allowed; unusable capacities are
refused. `bootFurnished` adds two files and a directory to the tree, wires the
service to the console that can be hooked, and allows no outages; nothing is
provided for unusable capacities, and they are a fault.
-/

namespace OpenFiles

namespace Session

def greeting : String := "Welcome to the open-file table!\n\nEvery handle counts.\n"

/-- A new tree with a greeting, an empty file and a home directory. -/
def furnishedTree : FileTree :=
  [.createFile "/hello" greeting.toUTF8.toList, .createFile "/empty" [],
    .makeDirectory "/home"].foldl FileTree.after FileTree.initial

def newConsoles (wiring : Wiring) (capacity : Nat) (hooked : Hooked) : Switchboard where
  wiring := wiring
  metered := Metered.unlimited (MemoryConsole.ofCapacity capacity)
  hooked := hooked

/-- Starts over a new tree. The metered console has room for `capacity` bytes of
input. -/
def boot (capacities : Capacities) (capacity : Nat) : Except Error Session :=
  (Service.build capacities ⟨FileTree.initial, Outages.off⟩
    (newConsoles .metered capacity {})).map (ofService true)

/-- Starts over a furnished tree. Recorded input is hooked in first, if there is
any. -/
def bootFurnished (capacities : Capacities) (input : Option Bytes) : Except Fault Session :=
  let hooked : Hooked := input.elim {} (Hooked.attach {})
  match Service.build capacities ⟨furnishedTree, Outages.off⟩ (newConsoles .hooked 0 hooked) with
  | .ok service => .ok (ofService false service)
  | .error reason => .error (.unexpectedRefusal reason)

end Session

end OpenFiles
