import OpenFiles.Console.MemoryConsole
import OpenFiles.Console.Metered

/-!
# The calls that a transfer makes

A `Traced` device passes every call on and remembers it with its answer, so whatever a transfer
does with a device is in the trace. The device itself may answer a call in any way, and so with
any order of successes and failures.

`Passed` and `Filled` list how a write, and a read into a buffer, can end: what is answered, what
is in the buffer then, and which calls were made, all of them. The bytes that are counted are
those of the calls that succeeded, in order, and only the last call can have failed.

Both transfers are taken apart at their first byte. What follows it is a transfer of its own, and
a failure of that only ends the whole. For a read, which goes through one buffer from position to
position, this is `fillFrom_append`: behind bytes that are there already, it does what it would do
with the rest of the buffer alone.
-/

namespace OpenFiles

/-- A call to a byte device, together with its answer. -/
inductive DeviceCall where
  | read (answer : Except Error UInt8)
  | write (byte : UInt8) (answer : Except Error Unit)

/-- A byte device and the calls that it got, oldest first. -/
structure Traced (κ : Type) where
  device : κ
  calls : List DeviceCall

namespace Traced

variable {κ α : Type}

/-- Passes on what the bare device answered, and adds the calls that it got to the trace. -/
def passOn (traced : Traced κ) (answered : α × κ) (calls : List DeviceCall) : α × Traced κ :=
  (answered.1, ⟨answered.2, traced.calls ++ calls⟩)

instance [ByteDevice κ] : ByteDevice (Traced κ) where
  readByte traced :=
    let answered := ByteDevice.readByte traced.device
    traced.passOn answered [.read answered.1]
  writeByte byte traced :=
    let answered := ByteDevice.writeByte byte traced.device
    traced.passOn answered [.write byte answered.1]

theorem readByte_eq [ByteDevice κ] (traced : Traced κ) :
    ByteDevice.readByte traced = traced.passOn (ByteDevice.readByte traced.device)
      [.read (ByteDevice.readByte traced.device).1] := rfl

theorem writeByte_eq [ByteDevice κ] (byte : UInt8) (traced : Traced κ) :
    ByteDevice.writeByte byte traced = traced.passOn (ByteDevice.writeByte byte traced.device)
      [.write byte (ByteDevice.writeByte byte traced.device).1] := rfl

theorem passOn_nil (traced : Traced κ) (answer : α) :
    traced.passOn (answer, traced.device) [] = (answer, traced) := by
  rw [passOn, List.append_nil]

/-- A call, and then the calls that follow it. -/
theorem passOn_after (traced : Traced κ) (middle : κ) (call : DeviceCall) (answered : α × κ)
    (calls : List DeviceCall) :
    passOn ⟨middle, traced.calls ++ [call]⟩ answered calls =
      traced.passOn answered (call :: calls) := by
  rw [passOn, passOn, List.append_assoc, List.singleton_append]

end Traced

namespace ByteDevice

variable {κ : Type} [ByteDevice κ]

/-! ### Transfers from their first byte on -/

/-- What a transfer answers that has moved `before` bytes, given the answer to the rest of it. A
failure is passed on only if nothing was moved before it. -/
def resume (before : Nat) : Except Error Nat → Except Error Nat
  | .ok count => .ok (count + before)
  | .error reason => if before = 0 then .error reason else .ok before

theorem resume_resume (before middle : Nat) (answer : Except Error Nat) :
    resume before (resume middle answer) = resume (before + middle) answer := by
  cases answer with
  | ok count =>
      show Except.ok (count + middle + before) = Except.ok (count + (before + middle))
      rw [Nat.add_assoc, Nat.add_comm middle]
  | error reason =>
      cases middle with
      | zero => rfl
      | succ middle => exact congrArg Except.ok (Nat.add_comm (middle + 1) before)

theorem write_cons (byte : UInt8) (rest : Bytes) (device : κ) :
    write (byte :: rest) device =
      match writeByte byte device with
      | (.error reason, after) => (.error reason, after)
      | (.ok (), middle) => (resume 1 (write rest middle).1, (write rest middle).2) := by
  cases first : writeByte byte device with
  | mk answer middle =>
      cases answer with
      | error reason => simp only [write, send, first]
      | ok accepted =>
          simp only [write, send, first]
          obtain ⟨⟨count, failure⟩, after⟩ := send rest middle
          cases count with
          | zero => cases failure <;> rfl
          | succ count => rfl

theorem read_succ (room : Nat) (device : κ) :
    read (room + 1) device =
      match readByte device with
      | (.error reason, after) => (.error reason, after)
      | (.ok byte, middle) =>
        if byte = newline then (.ok [byte], middle)
        else
          match read room middle with
          | (.error _, after) => (.ok [byte], after)
          | (.ok data, after) => (.ok (byte :: data), after) := by
  cases first : readByte device with
  | mk answer middle =>
      cases answer with
      | error reason => simp only [read, take, first]
      | ok byte =>
          simp only [read, take, first]
          by_cases ends : byte = newline
          · simp only [if_pos ends]
          · simp only [if_neg ends]
            obtain ⟨⟨data, failure⟩, after⟩ := take room middle
            cases data with
            | nil => cases failure <;> rfl
            | cons next more => rfl

/-- Behind bytes that are there already, the rest of a buffer is filled as it would be alone. -/
theorem fillFrom_append (front rest : Bytes) (device : κ) :
    fillFrom front.length (front ++ rest) device =
      ((resume front.length (fill rest device).1.1, front ++ (fill rest device).1.2),
        (fill rest device).2) := by
  induction rest generalizing front device with
  | nil =>
      have full : ¬ front.length < (front ++ []).length := by simp
      rw [fill_nil, fillFrom, if_neg full, resume, Nat.zero_add]
  | cons old rest ih =>
      have room : front.length < (front ++ old :: rest).length := by simp
      have room' : 0 < (old :: rest).length := Nat.succ_pos _
      rw [fill, fillFrom, if_pos room, fillFrom, if_pos room']
      cases readByte device with
      | mk answer middle =>
          cases answer with
          | error reason => rfl
          | ok byte =>
              have stored :
                  (front ++ old :: rest).set front.length byte = front ++ byte :: rest := by
                rw [List.set_append_right _ _ (Nat.le_refl _), Nat.sub_self, List.set_cons_zero]
              by_cases ends : byte = newline
              · simp only [if_pos ends, stored, resume, Nat.zero_add, Nat.add_comm 1]
                rfl
              · -- The byte joins what is there already, in the one buffer and in the other.
                have behind := ih (front ++ [byte]) middle
                have alone := ih [byte] middle
                rw [List.length_append, List.append_assoc, List.append_assoc] at behind
                rw [List.length_singleton, List.singleton_append] at behind alone
                simp only [if_neg ends, stored]
                rw [behind, List.set_cons_zero, alone, resume_resume]

theorem fill_cons (old : UInt8) (rest : Bytes) (device : κ) :
    fill (old :: rest) device =
      match readByte device with
      | (.error reason, after) => ((.error reason, old :: rest), after)
      | (.ok byte, middle) =>
        if byte = newline then ((.ok 1, byte :: rest), middle)
        else ((resume 1 (fill rest middle).1.1, byte :: (fill rest middle).1.2),
          (fill rest middle).2) := by
  have room : 0 < (old :: rest).length := Nat.succ_pos _
  rw [fill, fillFrom, if_pos room]
  cases readByte device with
  | mk answer middle =>
      cases answer with
      | error reason => rfl
      | ok byte =>
          by_cases ends : byte = newline
          · simp only [if_pos ends]
            rfl
          · simp only [if_neg ends]
            exact fillFrom_append [byte] rest middle

/-- A read answers what a read into a buffer of that size stores. -/
theorem read_eq_fill (buffer : Bytes) (device : κ) :
    read buffer.length device =
      ((fill buffer device).1.1.map (fill buffer device).1.2.take, (fill buffer device).2) := by
  induction buffer generalizing device with
  | nil =>
      rw [fill_nil]
      rfl
  | cons old rest ih =>
      rw [List.length_cons, read_succ, fill_cons]
      cases readByte device with
      | mk answer middle =>
          cases answer with
          | error reason => rfl
          | ok byte =>
              by_cases ends : byte = newline
              · simp only [if_pos ends]
                rfl
              · simp only [if_neg ends, ih middle]
                obtain ⟨⟨answer, stored⟩, after⟩ := fill rest middle
                cases answer with
                | error reason => rfl
                | ok count => rfl

/-! ### How transfers end -/

/-- How a write ends: what it answers, and the calls that it has made. -/
inductive Passed (data : Bytes) : Except Error Nat → List DeviceCall → Prop
  /-- Every byte was accepted. -/
  | all : Passed data (.ok data.length) (data.map (.write · (.ok ())))
  /-- Some bytes were accepted, and the next one was refused. -/
  | cut {rest : Bytes} {byte : UInt8} {reason : Error} (sent : Bytes)
      (split : data = sent ++ byte :: rest) (nonempty : sent ≠ []) :
      Passed data (.ok sent.length)
        (sent.map (.write · (.ok ())) ++ [.write byte (.error reason)])
  /-- The first byte was refused. -/
  | refused {rest : Bytes} {byte : UInt8} {reason : Error} (split : data = byte :: rest) :
      Passed data (.error reason) [.write byte (.error reason)]

/-- How a read into a buffer ends: what it answers, what is in the buffer then, and the calls that
it has made. -/
inductive Filled (buffer : Bytes) : Except Error Nat × Bytes → List DeviceCall → Prop
  /-- There is no room left, and no newline came. -/
  | full (taken : Bytes) (all : taken.length = buffer.length) (unended : newline ∉ taken) :
      Filled buffer (.ok taken.length, taken) (taken.map (.read <| .ok ·))
  /-- A newline came. -/
  | line (taken : Bytes) (within : taken.length < buffer.length) (unended : newline ∉ taken) :
      Filled buffer
        (.ok (taken.length + 1), taken ++ newline :: buffer.drop (taken.length + 1))
        ((taken ++ [newline]).map (.read <| .ok ·))
  /-- Some bytes came, and then a failure. -/
  | cut {reason : Error} (taken : Bytes) (within : taken.length < buffer.length)
      (unended : newline ∉ taken) (nonempty : taken ≠ []) :
      Filled buffer (.ok taken.length, taken ++ buffer.drop taken.length)
        (taken.map (.read <| .ok ·) ++ [.read (.error reason)])
  /-- A failure came first. -/
  | refused {reason : Error} (room : buffer ≠ []) :
      Filled buffer (.error reason, buffer) [.read (.error reason)]

variable {answer : Except Error Nat} {rest stored : Bytes} {calls : List DeviceCall}

/-- An accepted byte comes before what is passed after it. -/
theorem Passed.cons (passed : Passed rest answer calls) (byte : UInt8) :
    Passed (byte :: rest) (resume 1 answer) (.write byte (.ok ()) :: calls) := by
  cases passed with
  | all => exact .all
  | cut sent split nonempty =>
      exact .cut (byte :: sent) (congrArg (byte :: ·) split) (List.cons_ne_nil byte sent)
  | refused split =>
      exact .cut [byte] (congrArg (byte :: ·) split) (List.cons_ne_nil byte [])

/-- A byte that ends no line comes before what is stored after it. -/
theorem Filled.cons {byte : UInt8} (filled : Filled rest (answer, stored) calls)
    (unended : byte ≠ newline) (old : UInt8) :
    Filled (old :: rest) (resume 1 answer, byte :: stored) (.read (.ok byte) :: calls) := by
  have longer {taken : Bytes} (before : newline ∉ taken) : newline ∉ byte :: taken :=
    List.not_mem_cons_of_ne_of_not_mem unended.symm before
  cases filled with
  | full _ all before =>
      exact .full (byte :: stored) (congrArg Nat.succ all) (longer before)
  | line taken within before =>
      exact .line (byte :: taken) (Nat.succ_lt_succ within) (longer before)
  | cut taken within before nonempty =>
      exact .cut (byte :: taken) (Nat.succ_lt_succ within) (longer before)
        (List.cons_ne_nil byte taken)
  | refused room =>
      have within : 1 < (old :: rest).length := Nat.succ_lt_succ (List.length_pos_iff.mpr room)
      exact .cut [byte] within (longer List.not_mem_nil) (List.cons_ne_nil byte [])

/-- A traced write answers what the bare one does, and the calls that it adds are those of the
way in which it ends. -/
theorem write_traced (data : Bytes) (traced : Traced κ) :
    ∃ calls, write data traced = traced.passOn (write data traced.device) calls ∧
      Passed data (write data traced.device).1 calls := by
  induction data generalizing traced with
  | nil =>
      rw [write_nil, write_nil]
      exact ⟨[], (traced.passOn_nil _).symm, .all⟩
  | cons byte rest ih =>
      rw [write_cons, write_cons, Traced.writeByte_eq]
      cases writeByte byte traced.device with
      | mk answer middle =>
          cases answer with
          | error reason => exact ⟨[.write byte (.error reason)], rfl, .refused rfl⟩
          | ok accepted =>
              let next : Traced κ := ⟨middle, traced.calls ++ [.write byte (.ok ())]⟩
              obtain ⟨calls, run, passed⟩ := ih next
              refine ⟨.write byte (.ok ()) :: calls, ?_, passed.cons byte⟩
              show (resume 1 (write rest next).1, (write rest next).2) = _
              rw [run, Traced.passOn_after]
              rfl

/-- A traced read stores and answers what the bare one does, and the calls that it adds are those
of the way in which it ends. -/
theorem fill_traced (buffer : Bytes) (traced : Traced κ) :
    ∃ calls, fill buffer traced = traced.passOn (fill buffer traced.device) calls ∧
      Filled buffer (fill buffer traced.device).1 calls := by
  induction buffer generalizing traced with
  | nil =>
      rw [fill_nil, fill_nil]
      exact ⟨[], (traced.passOn_nil _).symm, .full [] rfl List.not_mem_nil⟩
  | cons old rest ih =>
      rw [fill_cons, fill_cons, Traced.readByte_eq]
      cases readByte traced.device with
      | mk answer middle =>
          cases answer with
          | error reason =>
              exact ⟨[.read (.error reason)], rfl, .refused (List.cons_ne_nil old rest)⟩
          | ok byte =>
              by_cases ends : byte = newline
              · have room : 0 < (old :: rest).length := Nat.succ_pos _
                subst ends
                exact ⟨[.read (.ok newline)], rfl, .line [] room List.not_mem_nil⟩
              · let next : Traced κ := ⟨middle, traced.calls ++ [.read (.ok byte)]⟩
                obtain ⟨calls, run, filled⟩ := ih next
                simp only [Traced.passOn, if_neg ends]
                refine ⟨.read (.ok byte) :: calls, ?_, filled.cons ends old⟩
                show ((resume 1 (fill rest next).1.1, byte :: (fill rest next).1.2),
                  (fill rest next).2) = _
                rw [run, Traced.passOn_after]
                rfl

/-- Whichever calls to a device fail, every byte is accounted for. A write has made the calls of
one of the ways in which it can end, and so has a read into a buffer, and a read answers the part
of such a buffer that was stored. Transfers of no bytes make no calls. -/
theorem every_byte_accounted (buffer : Bytes) (traced : Traced κ) :
    (∃ calls, write buffer traced = traced.passOn (write buffer traced.device) calls ∧
      Passed buffer (write buffer traced.device).1 calls) ∧
    (∃ calls, fill buffer traced = traced.passOn (fill buffer traced.device) calls ∧
      Filled buffer (fill buffer traced.device).1 calls) ∧
    (∀ device : κ, read buffer.length device =
      ((fill buffer device).1.1.map (fill buffer device).1.2.take, (fill buffer device).2)) ∧
    write [] traced = (.ok 0, traced) ∧ fill [] traced = ((.ok 0, []), traced) :=
  ⟨write_traced buffer traced, fill_traced buffer traced, read_eq_fill buffer, write_nil traced,
    fill_nil traced⟩

/-- A console that accepts two more bytes and has two more to give. -/
example :
    let console : Metered MemoryConsole := ⟨⟨8, [97, 98], #[], true⟩, some 2⟩
    (write [120, 121, 122] console).1 = .ok 2 ∧
      (fill [0, 1, 2, 3] console).1 = (.ok 2, [97, 98, 2, 3]) := by
  cbv

end ByteDevice

end OpenFiles
