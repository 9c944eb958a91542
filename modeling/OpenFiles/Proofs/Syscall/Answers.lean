import OpenFiles.Proofs.Service.Sizes
import OpenFiles.Proofs.Syscall.Decoding

/-!
# What system calls are answered with

`Answers` says what the service can reply to each call. All numbers and descriptors among the
replies fit in a word, so delivering a reply loses nothing of it: `delivering` says so, and that
a delivery can only be refused by user memory.

A read or a write of a descriptor without the rights is refused before it is decoded. The operation
itself would have been refused in the same way, whatever the length or the data.
-/

namespace OpenFiles

namespace Service

open OpenFiles.Action

variable {σ κ : Type} {s : Service σ κ} {pid : Pid} {fd : Descriptor} {stop : Stop}

/-- A refusal of rights is either a descriptor that refers to nothing or rights that do not
cover what is asked. -/
theorem lacking_cases (balanced : s.tables.Balanced) {asked : Rights}
    (lacking : (requireRights pid fd asked).run s = .error stop s) :
    (∃ reason, stop = .refused reason ∧ (slot pid fd).run s = .error (.refused reason) s) ∨
    ∃ contents rights, stop = .refused .badAccessMode ∧ rights.cover asked = false ∧
      s.tables.slot? ⟨pid, fd⟩ = some contents ∧ (slot pid fd).run s = .ok contents s ∧
      s.tables.rights? ⟨pid, fd⟩ = some rights := by
  have checked : Checking s pid fd asked _ := checking balanced asked
  rw [lacking] at checked
  obtain ⟨reason, why, run⟩ | ⟨contents, there, run⟩ := run_slot_cases s pid fd
  · rw [requireRights, EStateM.run_bind, run] at lacking
    cases lacking
    exact .inl ⟨reason, rfl, run⟩
  · cases checked with
    | unresolved why => cases why.slot?.symm.trans there
    | forbidden given uncovered =>
      exact .inr ⟨contents, _, rfl, uncovered, there, run, given⟩

/-- A descriptor in a table is a number from 0 to the size of the table. -/
theorem Bounded.within_of_inRange {table : DescriptorTable}
    (bounded : s.Bounded) (found : s.tables.processes.get? pid = some table)
    (inRange : table.index? fd = some fd.number.toNat) :
    0 ≤ fd.number ∧ fd.number < s.capacities.processSlots := by
  obtain ⟨number, within⟩ := DescriptorTable.index?_eq_some_iff.mp inRange
  rw [bounded.uniform pid table found] at within
  omega

variable [Storage σ] [ByteDevice κ]

/-- A read without the right to is refused like the question for the right. -/
theorem run_read_of_lacking (balanced : s.tables.Balanced)
    (lacking : (requireRights pid fd .reading).run s = .error stop s) (length : Nat) :
    ∃ reason, stop = .refused reason ∧
      (read pid fd length).run s = .error (.refused reason) s := by
  obtain ⟨reason, rfl, run⟩ | ⟨contents, rights, rfl, uncovered, there, run, given⟩ :=
    lacking_cases balanced lacking
  · refine ⟨reason, rfl, ?_⟩
    simp only [read, EStateM.run_bind, run]
  · refine ⟨.badAccessMode, rfl, ?_⟩
    rw [Rights.cover_reading] at uncovered
    simp only [Tables.rights?, there] at given
    cases contents with
    | stream stream =>
      cases given
      simp only [read, EStateM.run_bind, run, uncovered, Bool.false_eq_true, if_false]
      rfl
    | shared id =>
      obtain ⟨file, shown, rfl⟩ := Option.map_eq_some_iff.mp given
      obtain ⟨group, looked, _, _, rights⟩ := run_group_of_file? shown
      rw [run_read_of_slot there]
      simp only [readShared, EStateM.run_bind, looked, rights, uncovered, Bool.not_false, if_true]
      rfl

/-- The same of a write. -/
theorem run_write_of_lacking (balanced : s.tables.Balanced)
    (lacking : (requireRights pid fd .writing).run s = .error stop s) (data : Bytes) :
    ∃ reason, stop = .refused reason ∧
      (write pid fd data).run s = .error (.refused reason) s := by
  obtain ⟨reason, rfl, run⟩ | ⟨contents, rights, rfl, uncovered, there, run, given⟩ :=
    lacking_cases balanced lacking
  · refine ⟨reason, rfl, ?_⟩
    simp only [write, EStateM.run_bind, run]
  · refine ⟨.badAccessMode, rfl, ?_⟩
    rw [Rights.cover_writing] at uncovered
    simp only [Tables.rights?, there] at given
    cases contents with
    | stream stream =>
      cases given
      simp only [write, EStateM.run_bind, run, uncovered, Bool.false_eq_true, if_false]
      rfl
    | shared id =>
      obtain ⟨file, shown, rfl⟩ := Option.map_eq_some_iff.mp given
      obtain ⟨group, looked, _, _, rights⟩ := run_group_of_file? shown
      rw [run_write_of_slot there]
      simp only [writeShared, EStateM.run_bind, looked, rights, uncovered, Bool.not_false, if_true]
      rfl

end Service

namespace UserSpace

open OpenFiles.Action

variable {μ : Type} [AddressSpace μ] {memory after : μ} {start length : Nat}

/-- A buffer that is loaded is loaded whole. -/
theorem length_of_loadBuffer {granted : Nat} {data : Bytes}
    (loaded : (loadBuffer start length granted).run memory = .ok data after) :
    data.length = length := by
  rw [loadBuffer] at loaded
  split at loaded
  · rename_i zero
    cases loaded
    exact zero.symm
  · obtain ⟨_, middle, _, loaded⟩ := ok_of_bind loaded
    split at loaded
    · cases loaded
    · obtain ⟨answer, later, _, loaded⟩ := ok_of_bind loaded
      obtain ⟨bytes, last, _, loaded⟩ := ok_of_bind loaded
      cases loaded
      exact bytes.size_toArray

/-- A buffer that is stored is stored as far as there is room for it. -/
theorem eq_length_of_storeBuffer {data : Bytes} {count : Nat}
    (stored : (storeBuffer start length data).run memory = .ok count after) :
    count = (data.take length).length := by
  rw [storeBuffer] at stored
  split at stored
  · rename_i empty
    cases stored
    rw [empty]
    rfl
  · obtain ⟨_, middle, _, stored⟩ := ok_of_bind stored
    obtain ⟨answer, later, _, stored⟩ := ok_of_bind stored
    obtain ⟨_, last, _, stored⟩ := ok_of_bind stored
    cases stored
    rfl

end UserSpace

namespace Machine

open OpenFiles.Action

variable {σ κ μ : Type} [AddressSpace μ]
variable {machine decoded : Machine σ κ μ} {pid : Pid} {args : Arguments} {call : Call}
variable {request : Request} {reply : Reply} {service : Service σ κ} {slots : Nat}

/-- What a service with so many slots for each process can reply to a call. Only the replies that
are stored in user memory can fail to be delivered; the working directory is one of them,
and asking for it changes nothing. -/
inductive Answers (slots : Nat) (before after : Service σ κ) : Call → Reply → Prop
  | opened {fd : Descriptor} (nonneg : 0 ≤ fd.number) (within : fd.number < slots) :
      Answers slots before after .openPath (.descriptor fd)
  | duplicated {fd : Descriptor} (nonneg : 0 ≤ fd.number) (within : fd.number < slots) :
      Answers slots before after .duplicate (.descriptor fd)
  | read {data : Bytes} : Answers slots before after .read (.data data)
  | wrote {count : Nat} (small : count < wordLimit) :
      Answers slots before after .write (.number count)
  | sought {target : Nat} (small : target < wordLimit) :
      Answers slots before after .seek (.number target)
  | closed : Answers slots before after .close .done
  | removed : Answers slots before after .remove .done
  | ended : Answers slots before after .exit .done
  | forked {child : Pid} : Answers slots before after .fork (.process child)
  | found {text : String} (same : after = before) :
      Answers slots before after .workingDirectory (.text text)

/-- The number that a reply comes to. Of what is stored in a buffer, this is how much of it there
is room for. -/
def value (args : Arguments) : Reply → Int
  | .done => 0
  | .process child => child.number.toNat
  | .descriptor fd => fd.number
  | .number n => n
  | .data bytes => (bytes.take args.third.toNat).length
  | .text text => (text.toUTF8.toList.take args.second.toNat).length
  | .handles _ => 0

/-- What is to be stored in a buffer is counted exactly if it is stored, and storing it is refused
at worst. -/
theorem store_cases (machine : Machine σ κ μ) (start : Nat) (room : UInt64) (bytes : Bytes) :
    let store : Action (Machine σ κ μ) UInt64 := do
      let count ← onMemory (UserSpace.storeBuffer start room.toNat bytes)
      return UInt64.ofNat count
    (∃ word memory, store.run machine = .ok word ⟨machine.service, memory⟩ ∧
      (word.toNat : Int) = (bytes.take room.toNat).length) ∨
    ∃ reason memory, store.run machine = .error (.refused reason) ⟨machine.service, memory⟩ := by
  intro store
  obtain ⟨count, memory, stored, run⟩ | ⟨reason, memory, _, run⟩ :=
    run_onMemory_cases (UserSpace.faultless_storeBuffer start room.toNat bytes) machine
  · refine .inl ⟨UInt64.ofNat count, memory, ?_, ?_⟩
    · show (_ >>= _ : Action _ _).run machine = _
      rw [EStateM.run_bind, run]
      rfl
    · have amount := UserSpace.eq_length_of_storeBuffer stored
      have fits : count ≤ room.toNat := by
        rw [amount]
        exact List.length_take_le room.toNat bytes
      rw [toNat_ofNat_of_le fits, amount]
  · refine .inr ⟨reason, memory, ?_⟩
    show (_ >>= _ : Action _ _).run machine = _
    rw [EStateM.run_bind, run]

/-- A reply is delivered exactly, or user memory refuses what was to be stored there. -/
theorem deliver_cases {before after : Service σ κ} (small : slots < descriptorLimit)
    (answers : Answers slots before after call reply) (machine : Machine σ κ μ)
    (args : Arguments) :
    (∃ word memory, (deliver args reply).run machine = .ok word ⟨machine.service, memory⟩ ∧
      (word.toNat : Int) = value args reply) ∨
    (∃ reason memory,
      (deliver args reply).run machine = .error (.refused reason) ⟨machine.service, memory⟩) ∧
      (call = .read ∨ call = .workingDirectory ∧ after = before) := by
  have word {reply : Reply} {word : UInt64}
      (run : deliver args reply = (pure word : Action (Machine σ κ μ) UInt64))
      (exact : (word.toNat : Int) = value args reply) :
      ∃ word memory, (deliver args reply).run machine = .ok word ⟨machine.service, memory⟩ ∧
        (word.toNat : Int) = value args reply := by
    refine ⟨word, machine.memory, ?_, exact⟩
    rw [run]
    rfl
  cases answers with
  | opened nonneg within =>
      exact .inl (word rfl (Descriptor.toNat_toRegister small nonneg within))
  | duplicated nonneg within =>
      exact .inl (word rfl (Descriptor.toNat_toRegister small nonneg within))
  | wrote fits => exact .inl (word rfl (congrArg Int.ofNat (UInt64.toNat_ofNat_of_lt' fits)))
  | sought fits => exact .inl (word rfl (congrArg Int.ofNat (UInt64.toNat_ofNat_of_lt' fits)))
  | closed => exact .inl (word rfl rfl)
  | removed => exact .inl (word rfl rfl)
  | ended => exact .inl (word rfl rfl)
  | forked => exact .inl (word rfl rfl)
  | @read data =>
      obtain stored | refused := store_cases machine args.second.toNat args.third data
      · exact .inl stored
      · exact .inr ⟨refused, .inl rfl⟩
  | @found text same =>
      obtain stored | refused :=
        store_cases machine args.first.toNat args.second text.toUTF8.toList
      · exact .inl stored
      · exact .inr ⟨refused, .inr ⟨rfl, same⟩⟩

variable [Storage σ] [ByteDevice κ]

/-- What a call is answered with, if the service performs what it is decoded to. -/
theorem answers (balanced : machine.service.tables.Balanced) (bounded : machine.service.Bounded)
    (asked : Decoding machine pid args call (.ok (some request) decoded))
    (performed : (Service.perform request).run decoded.service = .ok reply service) :
    Answers machine.service.capacities.processSlots decoded.service service call reply := by
  cases asked with
  | @openPath path flags memory loaded parsed =>
      obtain ⟨fd, run, rfl⟩ := eq_of_perform .descriptor rfl performed
      have opening : Service.Opening machine.service pid path flags args.third.toUInt32 _ :=
        Service.opening balanced
      rw [run] at opening
      cases opening with
      | opened asked found answer room free granted entering =>
        obtain ⟨inRange, _⟩ := DescriptorTable.freeDescriptor_ok free
        obtain ⟨nonneg, within⟩ := bounded.within_of_inRange found inRange
        exact .opened nonneg within
  | duplicate =>
      obtain ⟨fd, run, rfl⟩ := eq_of_perform .descriptor rfl performed
      have duplicating : Service.Duplicating machine.service pid (.ofRegister args.first)
        (.ofRegister args.second) _ := Service.duplicating balanced
      rw [run] at duplicating
      cases duplicating with
      | itself found populated same =>
        rw [same] at populated
        obtain ⟨nonneg, within⟩ := bounded.within_of_inRange found
          (DescriptorTable.inRange_of_slot? populated)
        exact .duplicated nonneg within
      | stream found slot apart inRange departures =>
        obtain ⟨nonneg, within⟩ := bounded.within_of_inRange found inRange
        exact .duplicated nonneg within
      | shared found slot apart inRange departures joining =>
        obtain ⟨nonneg, within⟩ := bounded.within_of_inRange found inRange
        exact .duplicated nonneg within
  | read allowed usable moderate =>
      obtain ⟨data, _, rfl⟩ := eq_of_perform .data rfl performed
      exact .read
  | @write data memory allowed loaded =>
      obtain ⟨count, run, rfl⟩ := eq_of_perform .number rfl performed
      have writing : Service.Writing machine.service pid (.ofRegister args.first) data _ :=
        Service.writing balanced data
      rw [run] at writing
      have whole : data.length < wordLimit := by
        rw [UserSpace.length_of_loadBuffer loaded]
        exact toNat_lt_wordLimit args.third
      cases writing with
      | console slot writable answer =>
        exact .wrote (Nat.lt_of_le_of_lt (ByteDevice.write_le_length answer) whole)
      | nothing slot shown writable zero => exact .wrote (Nat.zero_lt_of_lt whole)
      | moved slot shown writable positive answer inside repositioning =>
        exact .wrote (Nat.lt_of_le_of_lt (Nat.le_add_left _ _) inside)
  | seek =>
      obtain ⟨target, run, rfl⟩ := eq_of_perform .number rfl performed
      have seeking : Service.Seeking machine.service pid (.ofRegister args.first)
        (signedWord args.second) args.third.toNat _ := Service.seeking balanced _ _
      rw [run] at seeking
      cases seeking with
      | moved slot shown seekable asked exact inside repositioning => exact .sought inside
  | close =>
      obtain ⟨_, _, rfl⟩ := eq_of_perform (fun _ => .done) rfl performed
      exact .closed
  | remove loaded =>
      obtain ⟨_, _, rfl⟩ := eq_of_perform (fun _ => .done) rfl performed
      exact .removed
  | exit =>
      obtain ⟨_, _, rfl⟩ := eq_of_perform (fun _ => .done) rfl performed
      exact .ended
  | fork =>
      obtain ⟨child, _, rfl⟩ := eq_of_perform .process rfl performed
      exact .forked
  | workingDirectory =>
      have same := Service.stateOf_workingDirectory machine.service
      rw [Service.perform] at performed
      obtain ⟨text, middle, run, made⟩ := ok_of_bind performed
      rw [run] at same
      cases made
      exact .found same

end Machine

end OpenFiles
