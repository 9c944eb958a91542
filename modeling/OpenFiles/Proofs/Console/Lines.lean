import OpenFiles.Console.MemoryConsole

/-!
# Lines from a console in memory

A read from a console in memory takes what is queued, up to a newline and up to the number of
bytes that was asked for. It would have to wait if the queue ended before either, unless the
input has been hung up. `lineRead` says what a read answers that does not have to wait: part of
a line, a whole one, or the rest of the input, and a failure only if there is nothing left.
-/

namespace OpenFiles

/-- What was taken without a failure is answered. -/
theorem ByteDevice.read_of_take {κ : Type} [ByteDevice κ] {device after : κ} {room : Nat}
    {data : Bytes} (taken : take room device = ((data, none), after)) :
    read room device = (.ok data, after) := by
  rw [read, taken]
  cases data <;> rfl

namespace MemoryConsole

open ByteDevice (newline)

variable {console after : MemoryConsole} {data : Bytes} {failure : Option Error}

/-- A read of so many bytes would have to wait: the queue ends before it, and more may come. -/
def Blocks (console : MemoryConsole) (length : Nat) : Prop :=
  console.hungUp = false ∧ console.input.length < length ∧ newline ∉ console.input

instance (console : MemoryConsole) (length : Nat) : Decidable (console.Blocks length) :=
  inferInstanceAs (Decidable (_ ∧ _ ∧ _))

/-- Why no more bytes were taken. -/
inductive Ended (console : MemoryConsole) (room : Nat) (data : Bytes) (after : MemoryConsole) :
    Option Error → Prop
  | full (all : data.length = room) : Ended console room data after none
  | line (last : data.getLast? = some newline) : Ended console room data after none
  | exhausted (short : data.length < room) (unterminated : newline ∉ data)
      (empty : after.input = []) :
      Ended console room data after (some (if console.hungUp then .inputOutput else .busy))

structure Taking (console : MemoryConsole) (room : Nat) (data : Bytes) (failure : Option Error)
    (after : MemoryConsole) : Prop where
  split : console.input = data ++ after.input
  frame : after = { console with input := after.input }
  within : data.length ≤ room
  line : newline ∉ data.dropLast
  ended : Ended console room data after failure

/-- A byte that ends no line is followed by what is taken after it. -/
theorem Taking.cons {rest : Bytes} {byte : UInt8} {room : Nat}
    (taking : Taking { console with input := rest } room data failure after)
    (waiting : console.input = byte :: rest) (unended : byte ≠ newline) :
    Taking console (room + 1) (byte :: data) failure after where
  split := by
    have split : rest = data ++ after.input := taking.split
    rw [waiting, split, List.cons_append]
  frame := taking.frame
  within := Nat.succ_le_succ taking.within
  line := by
    cases data with
    | nil => exact List.not_mem_nil
    | cons next more =>
        rw [List.dropLast_cons_cons, List.mem_cons, not_or]
        exact ⟨unended.symm, taking.line⟩
  ended := by
    cases taking.ended with
    | full all => exact .full (congrArg Nat.succ all)
    | line last =>
        refine .line ?_
        rw [List.getLast?_cons, last]
        rfl
    | exhausted short unterminated empty =>
        refine .exhausted (Nat.succ_lt_succ short) ?_ empty
        rw [List.mem_cons, not_or]
        exact ⟨unended.symm, unterminated⟩

theorem taking (console : MemoryConsole) (room : Nat) :
    Taking console room (ByteDevice.take room console).1.1 (ByteDevice.take room console).1.2
      (ByteDevice.take room console).2 := by
  induction room generalizing console with
  | zero => exact ⟨rfl, rfl, Nat.le_refl 0, List.not_mem_nil, .full rfl⟩
  | succ room ih =>
      cases waiting : console.input with
      | nil =>
          have next : ByteDevice.readByte console =
              (.error (if console.hungUp then .inputOutput else .busy), console) := by
            change console.readByte = _
            rw [readByte, waiting]
          simp only [ByteDevice.take, next]
          exact ⟨rfl, rfl, Nat.zero_le _, List.not_mem_nil,
            .exhausted (Nat.succ_pos room) List.not_mem_nil waiting⟩
      | cons byte rest =>
          have next : ByteDevice.readByte console = (.ok byte, { console with input := rest }) := by
            change console.readByte = _
            rw [readByte, waiting]
          simp only [ByteDevice.take, next]
          by_cases ends : byte = newline
          · simp only [if_pos ends]
            refine ⟨waiting, rfl, Nat.succ_le_succ (Nat.zero_le _), List.not_mem_nil, .line ?_⟩
            rw [ends, List.getLast?_singleton]
          · simp only [if_neg ends]
            exact (ih _).cons waiting ends

/-- A read does not touch the output. -/
theorem output_read (console : MemoryConsole) (length : Nat) :
    (ByteDevice.read length console).2.output = console.output := by
  have frame := (console.taking length).frame
  rw [ByteDevice.read]
  split
  · rename_i reason after taken
    rw [taken] at frame
    have kept := congrArg output frame
    exact kept
  · rename_i data failure after _ taken
    rw [taken] at frame
    have kept := congrArg output frame
    exact kept

/-- The answer to a read that does not have to wait, and the console after it. -/
inductive LineRead (console : MemoryConsole) (length : Nat) :
    Except Error Bytes × MemoryConsole → Prop
  | delivered {data rest : Bytes} (split : console.input = data ++ rest)
      (within : data.length ≤ length) (line : newline ∉ data.dropLast)
      (stopped : data.length < length →
        data.getLast? = some newline ∨ console.hungUp = true ∧ rest = []) :
      LineRead console length (.ok data, { console with input := rest })
  | exhausted (hungUp : console.hungUp = true) (empty : console.input = []) :
      LineRead console length (.error .inputOutput, console)

/-- Input that ends before a line does has been hung up, or the read would have waited. -/
theorem hungUp_of_not_blocks {length : Nat} (flowing : ¬ console.Blocks length)
    (split : console.input = data ++ after.input) (short : data.length < length)
    (unterminated : newline ∉ data) (empty : after.input = []) : console.hungUp = true := by
  rw [empty, List.append_nil] at split
  rw [Blocks, split] at flowing
  cases hungUp : console.hungUp with
  | true => rfl
  | false => exact absurd ⟨hungUp, short, unterminated⟩ flowing

theorem lineRead {length : Nat} (flowing : ¬ console.Blocks length) :
    LineRead console length (ByteDevice.read length console) := by
  have taking := console.taking length
  cases taken : ByteDevice.take length console with
  | mk crossed after =>
      obtain ⟨data, failure⟩ := crossed
      rw [taken] at taking
      obtain ⟨split, frame, within, line, ended⟩ := taking
      dsimp only at split frame within line ended
      have delivered (stopped : data.length < length →
          data.getLast? = some newline ∨ console.hungUp = true ∧ after.input = []) :
          LineRead console length (.ok data, after) := by
        rw [frame]
        exact .delivered split within line stopped
      cases ended with
      | full all =>
          rw [ByteDevice.read_of_take taken]
          exact delivered fun less => absurd all (Nat.ne_of_lt less)
      | line last =>
          rw [ByteDevice.read_of_take taken]
          exact delivered fun _ => .inl last
      | exhausted short unterminated empty =>
          have hungUp := hungUp_of_not_blocks flowing split short unterminated empty
          cases data with
          | nil =>
              have nothing : console.input = [] := split.trans empty
              have same : after = console := by rw [frame, empty, ← nothing]
              rw [ByteDevice.read, taken, same, if_pos hungUp]
              exact .exhausted hungUp nothing
          | cons byte rest =>
              rw [ByteDevice.read, taken]
              exact delivered fun _ => .inr ⟨hungUp, empty⟩

end MemoryConsole

end OpenFiles
