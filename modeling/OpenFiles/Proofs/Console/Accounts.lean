import OpenFiles.Console.Switchboard

/-!
# What a console takes in and gives out

A console has input that waits for a reader and output that it has accepted.
`ConsoleView` names the two, and a console is lawful if single bytes leave the one and
enter the other and nothing else happens to either. `Moved` is what any transfer does:
transfers in a row add up, so a buffer that was read is what is gone from the input, and
the part of a buffer that was accepted is what is new in the output. A transfer that fails
has moved nothing.

All the consoles here are lawful, however they are put together.
-/

namespace OpenFiles

/-- The two ends of a console. -/
class ConsoleView (κ : Type) where
  /-- The input that nobody has read yet. -/
  pending : κ → Bytes
  /-- The output that was accepted so far. -/
  captured : κ → Bytes

namespace ConsoleView

variable {κ : Type} [ConsoleView κ] {device middle after : κ}
variable {read read' written written' : Bytes}

/-- Some bytes were taken from the input, some were added to the output. -/
structure Moved (device : κ) (read written : Bytes) (after : κ) : Prop where
  pending : pending device = read ++ pending after
  captured : captured after = captured device ++ written

theorem Moved.refl (device : κ) : Moved device [] [] device where
  pending := rfl
  captured := (List.append_nil _).symm

theorem Moved.trans (first : Moved device read written middle)
    (second : Moved middle read' written' after) :
    Moved device (read ++ read') (written ++ written') after where
  pending := by rw [first.pending, second.pending, List.append_assoc]
  captured := by rw [second.captured, first.captured, List.append_assoc]

end ConsoleView

open ConsoleView

/-- A byte device that moves the bytes it says it moves. -/
class LawfulConsole (κ : Type) [ByteDevice κ] [ConsoleView κ] : Prop where
  /-- A byte that was read was the next of the input. -/
  moved_readByte (device : κ) :
    Moved device (ByteDevice.readByte device).1.toOption.toList [] (ByteDevice.readByte device).2
  /-- A byte that was accepted is the last of the output. -/
  moved_writeByte (byte : UInt8) (device : κ) :
    Moved device [] ((ByteDevice.writeByte byte device).1.toOption.map fun _ => byte).toList
      (ByteDevice.writeByte byte device).2

namespace ByteDevice

variable {κ : Type} [ByteDevice κ] [ConsoleView κ] [LawfulConsole κ] {device after : κ}

theorem moved_take (room : Nat) (device : κ) :
    Moved device (take room device).1.1 [] (take room device).2 := by
  induction room generalizing device with
  | zero => exact .refl device
  | succ room ih =>
    have first := LawfulConsole.moved_readByte device
    unfold take
    split
    · rename_i answer
      rw [answer] at first
      exact first
    · rename_i byte middle answer
      rw [answer] at first
      split
      · exact first
      · exact first.trans (ih middle)

theorem moved_send (data : Bytes) (device : κ) :
    Moved device [] (data.take (send data device).1.1) (send data device).2 := by
  induction data generalizing device with
  | nil => exact .refl device
  | cons byte rest ih =>
    have first := LawfulConsole.moved_writeByte byte device
    unfold send
    split
    · rename_i answer
      rw [answer] at first
      exact first
    · rename_i middle answer
      rw [answer] at first
      exact first.trans (ih middle)

/-- What was read is gone from the input. -/
theorem moved_of_read {room : Nat} {data : Bytes}
    (answer : read room device = (.ok data, after)) :
    data.length ≤ room ∧ Moved device data [] after := by
  have room_le := length_take_le room device
  have moved := moved_take room device
  rw [read] at answer
  split at answer
  · cases answer
  · rename_i bytes failure final _ taken
    rw [taken] at moved room_le
    cases answer
    exact ⟨room_le, moved⟩

theorem moved_of_read_error {room : Nat} {reason : Error}
    (answer : read room device = (.error reason, after)) : Moved device [] [] after := by
  have moved := moved_take room device
  rw [read] at answer
  split at answer
  · rename_i why final taken
    rw [taken] at moved
    cases answer
    exact moved
  · cases answer

/-- The part of the data that was accepted is what the output has grown by. -/
theorem moved_of_write {data : Bytes} {count : Nat}
    (answer : write data device = (.ok count, after)) :
    count ≤ data.length ∧ Moved device [] (data.take count) after := by
  refine ⟨write_le_length answer, ?_⟩
  have moved := moved_send data device
  rw [write] at answer
  split at answer
  · cases answer
  · rename_i amount failure final _ sent
    rw [sent] at moved
    cases answer
    exact moved

theorem moved_of_write_error {data : Bytes} {reason : Error}
    (answer : write data device = (.error reason, after)) : Moved device [] [] after := by
  have moved := moved_send data device
  rw [write] at answer
  split at answer
  · rename_i why final sent
    rw [sent] at moved
    cases answer
    exact moved
  · cases answer

end ByteDevice

namespace MemoryConsole

instance : ConsoleView MemoryConsole where
  pending := input
  captured console := console.output.toList

instance : LawfulConsole MemoryConsole where
  moved_readByte console := by
    change Moved console console.readByte.1.toOption.toList [] console.readByte.2
    rw [readByte]
    split
    · rename_i byte rest waiting
      exact ⟨waiting, (List.append_nil _).symm⟩
    · exact .refl console
  moved_writeByte byte console := ⟨rfl, Array.toList_push⟩

end MemoryConsole

namespace Metered

variable {κ : Type} [ConsoleView κ]

/-- The allowance is not seen. -/
instance : ConsoleView (Metered κ) where
  pending console := pending console.device
  captured console := captured console.device

instance [ByteDevice κ] [LawfulConsole κ] : LawfulConsole (Metered κ) where
  moved_readByte console :=
    have moved := LawfulConsole.moved_readByte console.device
    ⟨moved.pending, moved.captured⟩
  moved_writeByte byte console := by
    change Moved console [] ((writeByte byte console).1.toOption.map fun _ => byte).toList
      (writeByte byte console).2
    rw [writeByte]
    split
    · exact .refl console
    · have moved := LawfulConsole.moved_writeByte byte console.device
      exact ⟨moved.pending, moved.captured⟩

end Metered

namespace Hooked

/-- What can be read comes from the hook. What was written is there too, or is echoed. -/
instance : ConsoleView Hooked where
  pending console := console.hook.elim [] pending
  captured console := console.hook.elim console.echo.toList captured

instance : LawfulConsole Hooked where
  moved_readByte console := by
    change Moved console console.readByte.1.toOption.toList [] console.readByte.2
    rw [readByte]
    split
    · rename_i hook hooked
      have moved := LawfulConsole.moved_readByte hook
      constructor
      · simp only [ConsoleView.pending, hooked]
        exact moved.pending
      · simp only [ConsoleView.captured, hooked]
        exact moved.captured
    · exact .refl console
  moved_writeByte byte console := by
    change Moved console [] ((writeByte byte console).1.toOption.map fun _ => byte).toList
      (writeByte byte console).2
    rw [writeByte]
    split
    · rename_i hook hooked
      have moved := LawfulConsole.moved_writeByte byte hook
      constructor
      · simp only [ConsoleView.pending, hooked]
        exact moved.pending
      · simp only [ConsoleView.captured, hooked]
        exact moved.captured
    · rename_i unhooked
      constructor
      · simp only [ConsoleView.pending, unhooked]
        rfl
      · simp only [ConsoleView.captured, unhooked]
        exact Array.toList_push

end Hooked

namespace Switchboard

/-- Only the console in use is seen. -/
instance : ConsoleView Switchboard where
  pending board :=
    match board.wiring with
    | .metered => pending board.metered
    | .hooked => pending board.hooked
  captured board :=
    match board.wiring with
    | .metered => captured board.metered
    | .hooked => captured board.hooked

instance : LawfulConsole Switchboard where
  moved_readByte board := by
    obtain ⟨wiring, metered, hooked⟩ := board
    cases wiring with
    | metered =>
      have moved := LawfulConsole.moved_readByte metered
      exact ⟨moved.pending, moved.captured⟩
    | hooked =>
      have moved := LawfulConsole.moved_readByte hooked
      exact ⟨moved.pending, moved.captured⟩
  moved_writeByte byte board := by
    obtain ⟨wiring, metered, hooked⟩ := board
    cases wiring with
    | metered =>
      have moved := LawfulConsole.moved_writeByte byte metered
      exact ⟨moved.pending, moved.captured⟩
    | hooked =>
      have moved := LawfulConsole.moved_writeByte byte hooked
      exact ⟨moved.pending, moved.captured⟩

end Switchboard

end OpenFiles
