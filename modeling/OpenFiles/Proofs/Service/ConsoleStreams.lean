import OpenFiles.FileTree.Storage
import OpenFiles.Proofs.Console.Lines
import OpenFiles.Proofs.Service.Surroundings

/-!
# The streams of a console in memory

A console in memory has a service at its one end and whoever holds the other end at its other
end, who feeds it with input, hangs up, and takes away what was written. `ConsoleEvent` is
what happens at either end. A run loses no byte and makes up none: what was fed in and accepted
has been read through the standard input or is still queued, and what was written through the
standard output or the standard errors has been taken away or is still kept. Which
descriptors lead to the console does not depend on how they came to.
-/

namespace OpenFiles

/-- What happens at the two ends of a console in memory, and to the storage meanwhile. -/
inductive ConsoleEvent (σ : Type) where
  | request (request : Request)
  | feed (data : Bytes)
  | hangUp
  | drain
  | storage (store : σ)

namespace Service

open OpenFiles.Action
open ByteDevice (newline)

/-! ### Transfers through the standard streams -/

section Transfers

variable {σ κ : Type} [Storage σ] [ByteDevice κ] {s : Service σ κ} {pid : Pid} {fd : Descriptor}

/-- A read through the standard input is a read from the console. -/
theorem outcome_read_of_input {length : Nat}
    (bound : s.ReadsInput (.read pid fd length)) :
    (perform (.read pid fd length)).outcome s =
      ((match (ByteDevice.read length s.console).1 with
        | .ok data => .ok (.data data)
        | .error reason => .error (.refused reason)),
      s.withConsole (ByteDevice.read length s.console).2) := by
  obtain ⟨reason, why, _⟩ | ⟨contents, found, run⟩ := run_slot_cases s pid fd
  · cases why.slot?.symm.trans bound
  · cases found.symm.trans bound
    have readable : StandardStream.input.rights.read = true := rfl
    simp only [outcome_eq, perform, read, EStateM.run_bind, run, readable, if_true, run_onConsole]
    cases (ByteDevice.read length s.console).1 <;> rfl

/-- A write through the other standard streams is a write to the console. -/
theorem outcome_write_of_output {data : Bytes} (bound : s.WritesOutput (.write pid fd data)) :
    (perform (.write pid fd data)).outcome s =
      ((match (ByteDevice.write data s.console).1 with
        | .ok count => .ok (.number count)
        | .error reason => .error (.refused reason)),
      s.withConsole (ByteDevice.write data s.console).2) := by
  obtain ⟨reason, why, _⟩ | ⟨contents, found, run⟩ := run_slot_cases s pid fd
  · rcases bound with bound | bound <;> cases why.slot?.symm.trans bound
  · have writable : ∃ stream, contents = .stream stream ∧ stream.rights.write = true := by
      rcases bound with bound | bound <;> cases found.symm.trans bound <;> exact ⟨_, rfl, rfl⟩
    obtain ⟨stream, rfl, writable⟩ := writable
    simp only [outcome_eq, perform, write, EStateM.run_bind, run, writable, if_true, run_onConsole]
    cases (ByteDevice.write data s.console).1 <;> rfl

end Transfers

/-! ### Runs -/

section Runs

variable {σ : Type} [Storage σ] {s : Service σ MemoryConsole} {event : ConsoleEvent σ}
variable {events : List (ConsoleEvent σ)} {P Q : Service σ MemoryConsole → ConsoleEvent σ → Prop}

def occur (s : Service σ MemoryConsole) : ConsoleEvent σ → Service σ MemoryConsole
  | .request request => s.next request
  | .feed data => s.withConsole (s.console.feed data).2
  | .hangUp => s.withConsole s.console.hangUp
  | .drain => s.withConsole s.console.drain.2
  | .storage store => s.withStorage store

def play (s : Service σ MemoryConsole) (events : List (ConsoleEvent σ)) : Service σ MemoryConsole :=
  events.foldl occur s

/-- What holds of each event of a run, in the state in which it happens. -/
def Throughout (P : Service σ MemoryConsole → ConsoleEvent σ → Prop) (s : Service σ MemoryConsole) :
    List (ConsoleEvent σ) → Prop
  | [] => True
  | event :: rest => P s event ∧ Throughout P (s.occur event) rest

/-- The bytes that have to do with the events of a run, in order. -/
def along (bytes : Service σ MemoryConsole → ConsoleEvent σ → Bytes) (s : Service σ MemoryConsole) :
    List (ConsoleEvent σ) → Bytes
  | [] => []
  | event :: rest => bytes s event ++ along bytes (s.occur event) rest

/-- What is accepted of the input that is fed in. -/
def accepted (s : Service σ MemoryConsole) : ConsoleEvent σ → Bytes
  | .feed data => data.take (s.console.feed data).1
  | _ => []

/-- What a read through the standard input answers. -/
def received (s : Service σ MemoryConsole) : ConsoleEvent σ → Bytes
  | .request (.read pid fd length) =>
    if s.tables.slot? ⟨pid, fd⟩ = some (.stream .input) then
      match ((perform (.read pid fd length)).outcome s).1 with
      | .ok (.data bytes) => bytes
      | _ => []
    else []
  | _ => []

/-- The data of a write through the standard output or the standard errors that succeeds. -/
def sent (s : Service σ MemoryConsole) : ConsoleEvent σ → Bytes
  | .request (.write pid fd data) =>
    if s.tables.slot? ⟨pid, fd⟩ = some (.stream .output) ∨
        s.tables.slot? ⟨pid, fd⟩ = some (.stream .errors) then
      match ((perform (.write pid fd data)).outcome s).1 with
      | .ok _ => data
      | .error _ => []
    else []
  | _ => []

def drained (s : Service σ MemoryConsole) : ConsoleEvent σ → Bytes
  | .drain => s.console.drain.1
  | _ => []

/-- A read through the standard input would have to wait. -/
def Waits (s : Service σ MemoryConsole) : ConsoleEvent σ → Prop
  | .request (.read pid fd length) =>
    s.tables.slot? ⟨pid, fd⟩ = some (.stream .input) ∧ s.console.Blocks length
  | _ => False

/-- The event is one that the input of the console is there for. -/
def UsesInput (s : Service σ MemoryConsole) : ConsoleEvent σ → Prop
  | .request request => s.ReadsInput request
  | .feed _ => True
  | _ => False

/-- The event is one that the output of the console is there for. -/
def UsesOutput (s : Service σ MemoryConsole) : ConsoleEvent σ → Prop
  | .request request => s.WritesOutput request
  | .drain => True
  | _ => False

/-- What a read through the standard input may be answered: no more than was asked for, no more
than one line, and no less than either unless the input has been hung up and is empty then. It
fails only if it takes nothing. -/
inductive ReadAnswer (before after : MemoryConsole) (length : Nat) : Except Stop Reply → Prop
  | delivered {data : Bytes} (split : before.input = data ++ after.input)
      (within : data.length ≤ length) (line : newline ∉ data.dropLast)
      (stopped : data.length < length →
        data.getLast? = some newline ∨ before.hungUp = true ∧ after.input = []) :
      ReadAnswer before after length (.ok (.data data))
  | exhausted (hungUp : before.hungUp = true) (empty : before.input = []) (same : after = before) :
      ReadAnswer before after length (.error (.refused .inputOutput))

/-- What is asked of each event: it changes the input and the output only if they are there
for it, and reads through the standard input are answered as they may be. -/
structure InOrder (s : Service σ MemoryConsole) (event : ConsoleEvent σ) : Prop where
  input : ¬ s.UsesInput event → (s.occur event).console.input = s.console.input
  output : ¬ s.UsesOutput event → (s.occur event).console.output = s.console.output
  answer : ∀ pid fd length, event = .request (.read pid fd length) →
    s.tables.slot? ⟨pid, fd⟩ = some (.stream .input) →
      ReadAnswer s.console (s.occur event).console length
        ((perform (.read pid fd length)).outcome s).1

theorem balanced_occur (balanced : s.tables.Balanced) (event : ConsoleEvent σ) :
    (s.occur event).tables.Balanced := by
  cases event with
  | request request => exact balanced_next balanced request
  | _ => exact balanced

theorem Throughout.mono (holds : s.Throughout P events) (balanced : s.tables.Balanced)
    (weaken : ∀ s event, s.tables.Balanced → P s event → Q s event) : s.Throughout Q events := by
  induction events generalizing s with
  | nil => trivial
  | cons event rest ih =>
      exact ⟨weaken s event balanced holds.1, ih holds.2 (balanced_occur balanced event)⟩

/-- If each event takes from a queue what it gives out and adds to it what it takes in, so does
a run. -/
theorem along_append_eq {out into : Service σ MemoryConsole → ConsoleEvent σ → Bytes}
    (queue : Service σ MemoryConsole → Bytes)
    (holds : s.Throughout
      (fun s event => out s event ++ queue (s.occur event) = queue s ++ into s event) events) :
    s.along out events ++ queue (s.play events) = queue s ++ s.along into events := by
  induction events generalizing s with
  | nil => exact (List.append_nil _).symm
  | cons event rest ih =>
      obtain ⟨first, later⟩ := holds
      calc s.along out (event :: rest) ++ queue (s.play (event :: rest))
          = out s event ++ ((s.occur event).along out rest ++
              queue ((s.occur event).play rest)) := List.append_assoc _ _ _
        _ = out s event ++ (queue (s.occur event) ++ (s.occur event).along into rest) := by
            rw [ih later]
        _ = queue s ++ (into s event ++ (s.occur event).along into rest) := by
            rw [← List.append_assoc, first, List.append_assoc]

/-! ### What one event does to the two queues -/

theorem read_answered {pid : Pid} {fd : Descriptor} {length : Nat}
    (bound : s.ReadsInput (.read pid fd length)) (flowing : ¬ s.console.Blocks length) :
    ReadAnswer s.console (s.next (.read pid fd length)).console length
      ((perform (.read pid fd length)).outcome s).1 := by
  have line := MemoryConsole.lineRead flowing
  rw [next, outcome_read_of_input bound]
  cases answer : ByteDevice.read length s.console with
  | mk verdict console =>
      rw [answer] at line
      cases line with
      | delivered split within line stopped => exact .delivered split within line stopped
      | exhausted hungUp empty => exact .exhausted hungUp empty rfl

theorem write_answered {pid : Pid} {fd : Descriptor} {data : Bytes}
    (bound : s.WritesOutput (.write pid fd data)) :
    (perform (.write pid fd data)).outcome s =
      (.ok (.number data.length), s.withConsole
        { s.console with output := s.console.output ++ data.toArray }) := by
  have crossed : ByteDevice.write data s.console =
      (.ok data.length, { s.console with output := s.console.output ++ data.toArray }) := by
    rw [ByteDevice.write, MemoryConsole.send_eq]
    cases data <;> rfl
  rw [outcome_write_of_output bound, crossed]

/-- What a read through the standard input answers is gone from the queue. -/
theorem input_read {pid : Pid} {fd : Descriptor} {length : Nat}
    (bound : s.ReadsInput (.read pid fd length)) (flowing : ¬ s.console.Blocks length) :
    s.received (.request (.read pid fd length)) ++ (s.next (.read pid fd length)).console.input =
      s.console.input := by
  have here : s.tables.slot? ⟨pid, fd⟩ = some (.stream .input) := bound
  have answered := read_answered bound flowing
  rw [received, if_pos here]
  generalize ((perform (.read pid fd length)).outcome s).1 = answer at answered
  generalize (s.next (.read pid fd length)).console = after at answered
  cases answered with
  | delivered split within line stopped => exact split.symm
  | exhausted hungUp empty same => rw [same, List.nil_append]

/-- What is written through the other standard streams is kept. -/
theorem output_write {pid : Pid} {fd : Descriptor} {data : Bytes}
    (bound : s.WritesOutput (.write pid fd data)) :
    (s.next (.write pid fd data)).console.output.toList =
      s.console.output.toList ++ s.sent (.request (.write pid fd data)) := by
  have here : s.tables.slot? ⟨pid, fd⟩ = some (.stream .output) ∨
      s.tables.slot? ⟨pid, fd⟩ = some (.stream .errors) := bound
  rw [sent, if_pos here, next, write_answered bound, withConsole, Array.toList_append]

theorem input_occur_of_not_uses (balanced : s.tables.Balanced) (unused : ¬ s.UsesInput event) :
    (s.occur event).console.input = s.console.input := by
  cases event with
  | request request =>
      by_cases writes : s.WritesOutput request
      · cases request with
        | write pid fd data => rw [occur, next, write_answered writes, withConsole]
        | _ => exact writes.elim
      · rw [occur, console_next balanced unused writes]
  | feed data => exact (unused trivial).elim
  | _ => rfl

theorem output_occur_of_not_uses (balanced : s.tables.Balanced) (unused : ¬ s.UsesOutput event) :
    (s.occur event).console.output = s.console.output := by
  cases event with
  | request request =>
      by_cases reads : s.ReadsInput request
      · cases request with
        | read pid fd length =>
            rw [occur, next, outcome_read_of_input reads, withConsole]
            exact s.console.output_read length
        | _ => exact reads.elim
      · rw [occur, console_next balanced reads unused]
  | drain => exact (unused trivial).elim
  | _ => rfl

theorem input_occur (balanced : s.tables.Balanced) (flowing : ¬ s.Waits event) :
    s.received event ++ (s.occur event).console.input = s.console.input ++ s.accepted event := by
  by_cases used : s.UsesInput event
  · cases event with
    | request request =>
        cases request with
        | read pid fd length =>
            have taken := input_read used fun blocks => flowing ⟨used, blocks⟩
            exact taken.trans (List.append_nil _).symm
        | _ => exact used.elim
    | feed data => exact MemoryConsole.input_feed s.console data
    | _ => exact used.elim
  · have nothing : s.received event = [] := by
      cases event with
      | request request =>
          cases request with
          | read pid fd length => exact if_neg used
          | _ => rfl
      | _ => rfl
    have unfed : s.accepted event = [] := by
      cases event with
      | feed data => exact (used trivial).elim
      | _ => rfl
    rw [nothing, unfed, input_occur_of_not_uses balanced used, List.append_nil, List.nil_append]

theorem output_occur (balanced : s.tables.Balanced) (event : ConsoleEvent σ) :
    s.drained event ++ (s.occur event).console.output.toList =
      s.console.output.toList ++ s.sent event := by
  by_cases used : s.UsesOutput event
  · cases event with
    | request request =>
        cases request with
        | write pid fd data => exact output_write used
        | _ => exact used.elim
    | drain => rfl
    | _ => exact used.elim
  · have nothing : s.sent event = [] := by
      cases event with
      | request request =>
          cases request with
          | write pid fd data => exact if_neg used
          | _ => rfl
      | _ => rfl
    have untaken : s.drained event = [] := by
      cases event with
      | drain => exact (used trivial).elim
      | _ => rfl
    rw [nothing, untaken, output_occur_of_not_uses balanced used, List.append_nil,
      List.nil_append]

theorem inOrder_of_not_waits (balanced : s.tables.Balanced) (flowing : ¬ s.Waits event) :
    s.InOrder event where
  input := input_occur_of_not_uses balanced
  output := output_occur_of_not_uses balanced
  answer := by
    rintro pid fd length rfl bound
    exact read_answered bound fun blocks => flowing ⟨bound, blocks⟩

/-- From a silent console on, no byte is lost and none made up, as long as no read has to wait.
What was read through the standard input, and what is still queued behind it, is what was
accepted. What was taken away of the output, and what is still kept, is what was written
through the standard output and the standard errors. Nothing else changes either of the two,
and each read is answered with no more than a line. -/
theorem console_streams_conserved {capacities : Capacities} {storage : σ} {room : Nat}
    {allotment : Allotment}
    (built : build capacities storage (MemoryConsole.ofCapacity room) allotment = .ok s)
    (flowing : s.Throughout (fun s event => ¬ s.Waits event) events) :
    s.along received events ++ (s.play events).console.input = s.along accepted events ∧
      s.along drained events ++ (s.play events).console.output.toList = s.along sent events ∧
      s.Throughout InOrder events := by
  have balanced := balanced_of_build built
  have silent : s.console = MemoryConsole.ofCapacity room := by
    obtain ⟨_, system, journal, _, rfl⟩ := eq_of_build built
    rfl
  have unread : s.console.input = [] := by rw [silent]; rfl
  have unwritten : s.console.output.toList = [] := by rw [silent]; rfl
  refine ⟨?_, ?_, ?_⟩
  · have steps := flowing.mono balanced fun _ _ => input_occur
    rw [along_append_eq (fun s => s.console.input) steps, unread, List.nil_append]
  · have steps := flowing.mono balanced fun _ event balanced _ => output_occur balanced event
    rw [along_append_eq (fun s => s.console.output.toList) steps, unwritten, List.nil_append]
  · exact flowing.mono balanced fun _ _ => inOrder_of_not_waits

/-- A child reads a line through a copy of the standard input, its parent reads what is left of
the input, which was cut when it was fed in, and then there is nothing to read. -/
theorem console_streams_conserved_by_child :
    let events : List (ConsoleEvent FileTree) :=
      [.request (.createProcess ⟨1⟩), .feed [97, 98, 10, 99, 100],
        .request (.duplicate ⟨1⟩ ⟨0⟩ ⟨3⟩), .request (.forkProcess ⟨1⟩ ⟨2⟩),
        .request (.read ⟨2⟩ ⟨3⟩ 8), .hangUp, .request (.read ⟨1⟩ ⟨0⟩ 8),
        .request (.read ⟨1⟩ ⟨0⟩ 8), .request (.write ⟨2⟩ ⟨1⟩ [120]), .drain]
    ∃ start : Service FileTree MemoryConsole,
      build ⟨4, 5⟩ FileTree.initial (.ofCapacity 4) = .ok start ∧
      start.along received events = [97, 98, 10, 99] ∧
      start.along received events ++ (start.play events).console.input =
        start.along accepted events ∧
      start.along drained events ++ (start.play events).console.output.toList =
        start.along sent events ∧
      start.Throughout InOrder events := by
  intro events
  have built : build ⟨4, 5⟩ FileTree.initial (MemoryConsole.ofCapacity 4) = .ok _ := rfl
  refine ⟨_, built, by decide, console_streams_conserved built ?_⟩
  exact .intro id <| .intro id <| .intro id <| .intro id <|
    .intro (fun waits => absurd waits.2 (by decide)) <| .intro id <|
      .intro (fun waits => absurd waits.2 (by decide)) <|
        .intro (fun waits => absurd waits.2 (by decide)) <| .intro id <| .intro id trivial

end Runs

end Service

end OpenFiles
