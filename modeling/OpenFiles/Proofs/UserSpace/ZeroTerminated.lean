import OpenFiles.Proofs.UserSpace.Copies
import OpenFiles.Proofs.UserSpace.Recorded

/-!
# Text that ends before a zero byte

Text is loaded from user memory byte by byte, until a zero byte or a byte that may not be accessed.
The first index where one of the two is found decides alone: `loadText_exact` gives the answer for
every memory and every bound on the length. The byte at the bound itself is looked at, for it may
be the zero byte, and none behind it is.

An address space may change whenever it is asked. What is found at an index is therefore what is
found there after the bytes before it have been looked at, in the memory `memoryAt`.
-/

namespace OpenFiles

namespace AddressSpace

variable {μ : Type} [AddressSpace μ]

instance (memory : μ) (start length : Nat) (direction : Direction) :
    Decidable (Usable memory start length direction) :=
  decidable_of_iff (start + length < wordLimit ∧ start ≠ 0 ∧
      (permits start (start + length) direction memory).1 = true)
    ⟨fun ⟨inside, nonzero, permitted⟩ => ⟨inside, nonzero, permitted⟩,
      fun usable => ⟨usable.inside, usable.nonzero, usable.permitted⟩⟩

/-- The answer to a fetch of one byte, after it has been asked for, and the memory then. -/
def look (address : Nat) (memory : μ) : Except Error (Vector UInt8 1) × μ :=
  fetch address 1 (permits address (address + 1) .fetch memory).2

/-- The memory in which the byte at an index is looked at: those before it have been. -/
def memoryAt (memory : μ) (start : Nat) : Nat → μ
  | 0 => memory
  | i + 1 => (look (start + i) (memoryAt memory start i)).2

/-- The byte at an index may be accessed when it is looked at. -/
def Accessible (memory : μ) (start i : Nat) : Prop :=
  Usable (memoryAt memory start i) (start + i) 1 .fetch

def byteAt? (memory : μ) (start i : Nat) : Option UInt8 :=
  (look (start + i) (memoryAt memory start i)).1.toOption.map fun bytes => bytes[0]

def bytesBefore (memory : μ) (start i : Nat) : Bytes :=
  (List.range i).filterMap (byteAt? memory start)

/-- At an index stands a zero byte, or one that may not be accessed. -/
def Ends (memory : μ) (start i : Nat) : Prop :=
  ¬ Accessible memory start i ∨ byteAt? memory start i = some 0

/-- Every byte that may be accessed can be fetched. -/
def Yields (memory : μ) (start : Nat) : Prop :=
  ∀ i, Accessible memory start i → byteAt? memory start i ≠ none

instance (memory : μ) (start i : Nat) : Decidable (Accessible memory start i) :=
  inferInstanceAs (Decidable (Usable _ _ _ _))

instance (memory : μ) (start i : Nat) : Decidable (Ends memory start i) :=
  inferInstanceAs (Decidable (¬ Accessible memory start i ∨ byteAt? memory start i = some 0))

variable {memory : μ} {start i : Nat}

/-- An index that is not the end has a byte other than zero. -/
theorem Yields.exists_byte (yields : Yields memory start) (goes : ¬ Ends memory start i) :
    Accessible memory start i ∧ ∃ byte, byteAt? memory start i = some byte ∧ byte ≠ 0 := by
  obtain ⟨accessible, nonzero⟩ := not_or.mp goes
  have accessible : Accessible memory start i := not_not.mp accessible
  obtain ⟨byte, found⟩ := Option.ne_none_iff_exists'.mp (yields i accessible)
  refine ⟨accessible, byte, found, ?_⟩
  rintro rfl
  exact nonzero found

theorem bytesBefore_succ {byte : UInt8} (found : byteAt? memory start i = some byte) :
    bytesBefore memory start (i + 1) = bytesBefore memory start i ++ [byte] := by
  rw [bytesBefore, List.range_succ, List.filterMap_append, List.filterMap_cons_some found]
  rfl

/-- A lawful memory stays as it is, so the bytes before an index do not matter. -/
theorem memoryAt_of_lawful [MemoryView μ] [LawfulMemory μ] (memory : μ) (start i : Nat) :
    memoryAt memory start i = memory := by
  induction i with
  | zero => rfl
  | succ i ih =>
    rw [memoryAt, ih, look, LawfulMemory.permits_kept, LawfulMemory.fetch_kept]

/-- What may be used in a block can be fetched. -/
theorem yields_block (block : MemoryBlock) (start : Nat) : Yields block start := by
  intro i accessible
  rw [Accessible, memoryAt_of_lawful] at accessible
  obtain ⟨bytes, fetched⟩ := MemoryBlock.fetch_of_contains accessible.permitted
  rw [byteAt?, memoryAt_of_lawful]
  have answer : (look (start + i) block).1 = .ok bytes := fetched
  rw [answer]
  exact Option.some_ne_none _

end AddressSpace

namespace UserSpace

open OpenFiles.Action AddressSpace

variable {μ : Type} [AddressSpace μ] {memory : μ} {start room i : Nat} {byte : UInt8}

/-! ### One byte -/

theorem toList_eq_singleton (bytes : Vector UInt8 1) : bytes.toList = [bytes[0]] := by
  obtain ⟨byte, whole⟩ := List.length_eq_one_iff.mp bytes.length_toList
  simp [whole, ← Vector.getElem_toList]

theorem run_loadValue_of_accessible (accessible : Accessible memory start i)
    (found : byteAt? memory start i = some byte) :
    (loadValue (start + i) 1).run (memoryAt memory start i) =
      .ok [byte] (memoryAt memory start (i + 1)) := by
  obtain ⟨inside, nonzero, permitted⟩ := accessible
  have checked : ¬ (wordLimit ≤ start + i + 1 ∨ start + i = 0) := by
    rintro (outside | zero)
    · omega
    · exact nonzero zero
  rw [loadValue, requireRange, if_neg checked]
  simp only [EStateM.run_bind, run_step, permitted, if_true, EStateM.run_pure, fetchChecked]
  rw [byteAt?, look] at found
  cases answer : (fetch (start + i) 1
      (permits (start + i) (start + i + 1) .fetch (memoryAt memory start i)).2).1 with
  | error reason =>
    rw [answer] at found
    cases found
  | ok bytes =>
    rw [answer] at found
    have same : bytes[0] = byte := Option.some.inj found
    simp only [orRefuse_ok, EStateM.run_pure, toList_eq_singleton, same]
    rfl

theorem run_loadValue_of_not_accessible (inaccessible : ¬ Accessible memory start i) :
    ∃ after, (loadValue (start + i) 1).run (memoryAt memory start i) =
      .error (.refused .badAddress) after := by
  rw [loadValue, requireRange]
  by_cases unasked : wordLimit ≤ start + i + 1 ∨ start + i = 0
  · rw [if_pos unasked]
    exact ⟨_, rfl⟩
  · obtain ⟨inside, nonzero⟩ := not_or.mp unasked
    rw [if_neg unasked]
    cases permitted : (permits (start + i) (start + i + 1) .fetch (memoryAt memory start i)).1 with
    | true => exact absurd ⟨Nat.lt_of_not_le inside, nonzero, permitted⟩ inaccessible
    | false =>
      simp only [EStateM.run_bind, run_step, permitted]
      exact ⟨_, rfl⟩

/-! ### The loop -/

/-- A byte that is not zero is kept, and the text goes on behind it. -/
theorem run_loadUntilZero_of_nonzero (accessible : Accessible memory start i)
    (found : byteAt? memory start i = some byte) (nonzero : byte ≠ 0) (room : Nat) :
    (loadUntilZero (room + 1) (start + i)).run (memoryAt memory start i) =
      (loadUntilZero room (start + (i + 1)) >>= fun rest => pure (byte :: rest)).run
        (memoryAt memory start (i + 1)) := by
  have inside : ¬ wordLimit ≤ start + i + 1 := Nat.not_le_of_lt accessible.inside
  rw [loadUntilZero, EStateM.run_bind, run_loadValue_of_accessible accessible found]
  simp only [if_neg nonzero, if_neg inside]
  rfl

/-- No byte may follow the last one that there is room for, unless it is zero. -/
theorem run_loadUntilZero_of_full (accessible : Accessible memory start i)
    (found : byteAt? memory start i = some byte) (nonzero : byte ≠ 0) :
    ∃ after, (loadUntilZero 0 (start + i)).run (memoryAt memory start i) =
      .error (.refused .nameTooLong) after := by
  rw [loadUntilZero, EStateM.run_bind, run_loadValue_of_accessible accessible found]
  simp only [if_neg nonzero]
  exact ⟨_, rfl⟩

theorem run_loadUntilZero_of_zero (accessible : Accessible memory start i)
    (found : byteAt? memory start i = some 0) (room : Nat) :
    (loadUntilZero room (start + i)).run (memoryAt memory start i) =
      .ok [] (memoryAt memory start (i + 1)) := by
  unfold loadUntilZero
  rw [EStateM.run_bind, run_loadValue_of_accessible accessible found]
  rfl

theorem run_loadUntilZero_of_not_accessible (inaccessible : ¬ Accessible memory start i)
    (room : Nat) : ∃ after, (loadUntilZero room (start + i)).run (memoryAt memory start i) =
      .error (.refused .badAddress) after := by
  obtain ⟨after, run⟩ := run_loadValue_of_not_accessible inaccessible
  refine ⟨after, ?_⟩
  unfold loadUntilZero
  rw [EStateM.run_bind, run]

/-- As long as nothing ends the text its bytes are loaded, and what is left is to load the rest
with the room that is left. -/
theorem run_loadUntilZero (yields : Yields memory start)
    (goes : ∀ j < i, ¬ Ends memory start j) (room : Nat) :
    (loadUntilZero (i + room) start).run memory =
      (loadUntilZero room (start + i) >>= fun rest =>
        pure (bytesBefore memory start i ++ rest)).run (memoryAt memory start i) := by
  induction i generalizing room with
  | zero =>
    have whole : (fun rest => pure (bytesBefore memory start 0 ++ rest) : Bytes → Action μ Bytes) =
        pure := rfl
    rw [whole, bind_pure, Nat.zero_add]
    rfl
  | succ i ih =>
    obtain ⟨accessible, byte, found, nonzero⟩ := yields.exists_byte (goes i (Nat.lt_succ_self i))
    have before := ih (fun j below => goes j (Nat.lt_succ_of_lt below)) (room + 1)
    have here := run_loadUntilZero_of_nonzero accessible found nonzero room
    rw [Nat.add_right_comm, Nat.add_assoc, before, EStateM.run_bind, here, EStateM.run_bind,
      EStateM.run_bind, bytesBefore_succ found]
    cases (loadUntilZero room (start + (i + 1))).run (memoryAt memory start (i + 1)) with
    | ok rest after =>
      have joined : bytesBefore memory start i ++ [byte] ++ rest =
          bytesBefore memory start i ++ byte :: rest := List.append_cons _ _ _ |>.symm
      simp only [joined]
      rfl
    | error stop after => rfl

/-! ### The text -/

/-- Bytes are decoded to the text that has them as its encoding. -/
theorem decodeText?_eq_some_iff {bytes : Bytes} {text : String} :
    decodeText? bytes = some text ↔ text.toUTF8.data.toList = bytes := by
  rw [decodeText?, String.fromUTF8?]
  constructor
  · intro decoded
    split at decoded
    · cases decoded
      rfl
    · cases decoded
  · rintro rfl
    exact dif_pos text.isValidUTF8

theorem outcome_loadText_of_refused {reason : Error} {after : μ}
    (run : (loadUntilZero room start).run memory = .error (.refused reason) after) :
    ((loadText room start).outcome memory).1 = .error (.refused reason) := by
  rw [outcome_eq, loadText, EStateM.run_bind, run]

theorem outcome_loadText_of_text {bytes : Bytes} {text : String} {after : μ}
    (run : (loadUntilZero room start).run memory = .ok bytes after)
    (encoded : text.toUTF8.data.toList = bytes) :
    ((loadText room start).outcome memory).1 = .ok text := by
  rw [outcome_eq, loadText, EStateM.run_bind, run]
  simp only [decodeText?_eq_some_iff.mpr encoded]
  rfl

theorem outcome_loadText_of_no_text {bytes : Bytes} {after : μ}
    (run : (loadUntilZero room start).run memory = .ok bytes after)
    (undecodable : ∀ text : String, text.toUTF8.data.toList ≠ bytes) :
    ((loadText room start).outcome memory).1 = .error (.refused .invalidArgument) := by
  have undecodable : decodeText? bytes = none :=
    Option.eq_none_iff_forall_ne_some.mpr fun text decoded =>
      undecodable text (decodeText?_eq_some_iff.mp decoded)
  rw [outcome_eq, loadText, EStateM.run_bind, run]
  simp only [undecodable]
  rfl

/-- What loading answers when nothing up to the bound ends the text. -/
theorem outcome_loadText_of_full (yields : Yields memory start)
    (goes : ∀ i ≤ room, ¬ Ends memory start i) :
    ((loadText room start).outcome memory).1 = .error (.refused .nameTooLong) := by
  obtain ⟨accessible, byte, found, nonzero⟩ := yields.exists_byte (goes room (Nat.le_refl room))
  obtain ⟨after, full⟩ := run_loadUntilZero_of_full accessible found nonzero
  have before := run_loadUntilZero yields (fun j below => goes j (Nat.le_of_lt below)) 0
  rw [EStateM.run_bind, full] at before
  exact outcome_loadText_of_refused before

theorem outcome_loadText_of_not_accessible (yields : Yields memory start) (within : i ≤ room)
    (goes : ∀ j < i, ¬ Ends memory start j) (inaccessible : ¬ Accessible memory start i) :
    ((loadText room start).outcome memory).1 = .error (.refused .badAddress) := by
  obtain ⟨left, rfl⟩ := Nat.exists_eq_add_of_le within
  obtain ⟨after, barred⟩ := run_loadUntilZero_of_not_accessible inaccessible left
  have before := run_loadUntilZero yields goes left
  rw [EStateM.run_bind, barred] at before
  exact outcome_loadText_of_refused before

theorem run_loadUntilZero_of_ended (yields : Yields memory start) (within : i ≤ room)
    (goes : ∀ j < i, ¬ Ends memory start j) (accessible : Accessible memory start i)
    (found : byteAt? memory start i = some 0) :
    (loadUntilZero room start).run memory =
      .ok (bytesBefore memory start i) (memoryAt memory start (i + 1)) := by
  obtain ⟨left, rfl⟩ := Nat.exists_eq_add_of_le within
  have ended := run_loadUntilZero_of_zero accessible found left
  rw [run_loadUntilZero yields goes left, EStateM.run_bind, ended]
  simp only [List.append_nil]
  rfl

/-! ### The bytes that are looked at -/

/-- One byte is looked at, and after it either none or all those that are looked at from the next
one on, with room for one less. -/
theorem textAccesses_cases (room start : Nat) (memory : Recorded μ) :
    textAccesses room start memory = [accessTo start 1 .fetch .fetch memory] ∨
      ∃ (left : Nat) (after : Recorded μ), room = left + 1 ∧ textAccesses room start memory =
        accessTo start 1 .fetch .fetch memory :: textAccesses left (start + 1) after := by
  cases room with
  | zero =>
    rw [textAccesses]
    refine .inl (congrArg _ ?_)
    split
    · split <;> rfl
    · rfl
  | succ left =>
    rw [textAccesses]
    cases (loadValue start 1).run memory with
    | error stop after => exact .inl rfl
    | ok bytes after =>
      cases bytes with
      | nil => exact .inl rfl
      | cons byte others =>
        dsimp only
        split
        · exact .inl rfl
        · split
          · exact .inl rfl
          · exact .inr ⟨left, after, rfl, rfl⟩

/-- No byte behind the bound is looked at, and none twice. -/
theorem textAccesses_bounded (room start : Nat) (memory : Recorded μ) :
    (textAccesses room start memory).length ≤ room + 1 ∧
      ∀ access ∈ textAccesses room start memory, ∃ i ≤ room, ∃ before : Recorded μ,
        access = accessTo (start + i) 1 .fetch .fetch before := by
  induction room generalizing start memory with
  | zero =>
    obtain only | ⟨left, after, more, _⟩ := textAccesses_cases 0 start memory
    · rw [only]
      refine ⟨Nat.le_refl 1, fun access member => ⟨0, Nat.le_refl 0, memory, ?_⟩⟩
      exact List.mem_singleton.mp member
    · cases more
  | succ room ih =>
    obtain only | ⟨left, after, more, whole⟩ := textAccesses_cases (room + 1) start memory
    · rw [only]
      refine ⟨Nat.le_add_left 1 _, fun access member => ⟨0, Nat.zero_le _, memory, ?_⟩⟩
      exact List.mem_singleton.mp member
    · cases more
      obtain ⟨few, behind⟩ := ih (start + 1) after
      rw [whole]
      refine ⟨Nat.succ_le_succ few, fun access member => ?_⟩
      rcases List.mem_cons.mp member with rfl | member
      · exact ⟨0, Nat.zero_le _, memory, rfl⟩
      · obtain ⟨i, within, before, rfl⟩ := behind access member
        refine ⟨i + 1, Nat.succ_le_succ within, before, ?_⟩
        rw [Nat.add_assoc, Nat.add_comm 1 i]

/-- A look at a byte asks for it, and fetches it at most once. -/
theorem contacts_byte (address : Nat) (memory : Recorded μ) :
    (accessTo address 1 .fetch .fetch memory).contacts.countP Contact.isCopy ≤ 1 ∧
      ∀ contact ∈ (accessTo address 1 .fetch .fetch memory).contacts,
        contact = .fetched address 1 ∨
          ∃ permitted, contact = .asked address (address + 1) .fetch permitted := by
  cases outcome : verdict address 1 .fetch memory <;>
    simp [Access.contacts, Access.copies, accessTo, outcome, Contact.isCopy]

theorem countP_flatMap_le {α β : Type} {p : β → Bool} {f : α → List β} {list : List α}
    (few : ∀ a ∈ list, (f a).countP p ≤ 1) : (list.flatMap f).countP p ≤ list.length := by
  induction list with
  | nil => exact Nat.le_refl 0
  | cons a rest ih =>
    have first := few a List.mem_cons_self
    have others := ih fun b member => few b (List.mem_cons_of_mem a member)
    rw [List.flatMap_cons, List.countP_append, List.length_cons]
    omega

/-- Loading text asks for single bytes up to the bound and fetches at most one more than that. -/
theorem looks_loadText (room start : Nat) (memory : Recorded μ) :
    ∃ looks, (stateOf ((loadText room start).run memory)).record = memory.record ++ looks ∧
      looks.countP Contact.isCopy ≤ room + 1 ∧
      ∀ contact ∈ looks, ∃ i ≤ room, contact = .fetched (start + i) 1 ∨
        ∃ permitted, contact = .asked (start + i) (start + i + 1) .fetch permitted := by
  obtain ⟨few, bytes⟩ := textAccesses_bounded room start memory
  refine ⟨_, (makes_loadText room start memory).record, ?_, ?_⟩
  · refine Nat.le_trans (countP_flatMap_le fun access member => ?_) few
    obtain ⟨i, _, before, rfl⟩ := bytes access member
    exact (contacts_byte (start + i) before).1
  · intro contact member
    obtain ⟨access, member, made⟩ := List.mem_flatMap.mp member
    obtain ⟨i, within, before, rfl⟩ := bytes access member
    exact ⟨i, within, (contacts_byte (start + i) before).2 contact made⟩

/-- The answer to loading text, for every address space that can fetch what it permits. Without
an end at an index up to the bound the text is too long. Otherwise the first end decides: a byte
that may not be accessed makes a bad address, and a zero byte makes the text that the bytes before
it encode, if they encode one. Of no memory is a byte behind the bound asked for, nor more bytes
fetched than one above the bound. -/
theorem loadText_exact (room start : Nat) :
    (∀ memory : μ, Yields memory start →
      ((∀ i ≤ room, ¬ Ends memory start i) →
        ((loadText room start).outcome memory).1 = .error (.refused .nameTooLong)) ∧
      ∀ i ≤ room, (∀ j < i, ¬ Ends memory start j) →
        (¬ Accessible memory start i →
          ((loadText room start).outcome memory).1 = .error (.refused .badAddress)) ∧
        (Accessible memory start i → byteAt? memory start i = some 0 →
          (∀ text : String, text.toUTF8.data.toList = bytesBefore memory start i →
            ((loadText room start).outcome memory).1 = .ok text) ∧
          ((∀ text : String, text.toUTF8.data.toList ≠ bytesBefore memory start i) →
            ((loadText room start).outcome memory).1 = .error (.refused .invalidArgument)))) ∧
    ∀ memory : Recorded μ, ∃ looks,
      (stateOf ((loadText room start).run memory)).record = memory.record ++ looks ∧
      looks.countP Contact.isCopy ≤ room + 1 ∧
      ∀ contact ∈ looks, ∃ i ≤ room, contact = .fetched (start + i) 1 ∨
        ∃ permitted, contact = .asked (start + i) (start + i + 1) .fetch permitted := by
  refine ⟨fun memory yields => ⟨outcome_loadText_of_full yields, fun i within goes => ⟨?_, ?_⟩⟩,
    looks_loadText room start⟩
  · exact outcome_loadText_of_not_accessible yields within goes
  · intro accessible found
    have run := run_loadUntilZero_of_ended yields within goes accessible found
    exact ⟨fun text encoded => outcome_loadText_of_text run encoded,
      outcome_loadText_of_no_text run⟩

/-- Text of three bytes with its zero byte at the bound, and behind the bound; a byte that encodes
nothing by itself; and a byte behind which the block ends. -/
theorem loadText_exact_at_the_bound :
    let block : MemoryBlock := ⟨#[0x68, 0xc3, 0xa9, 0, 0x61], MemoryBlock.base⟩
    let base := MemoryBlock.base
    ((loadText 3 base).outcome block).1 = .ok "hé" ∧
      ((loadText 2 base).outcome block).1 = .error (.refused .nameTooLong) ∧
      ((loadText 1 (base + 2)).outcome block).1 = .error (.refused .invalidArgument) ∧
      ((loadText 1 (base + 4)).outcome block).1 = .error (.refused .badAddress) := by
  intro block base
  have exact (room start : Nat) := (loadText_exact room start).1 block (yields_block block start)
  refine ⟨?_, ?_, ?_, ?_⟩
  · obtain ⟨_, ended⟩ := exact 3 base
    exact ((ended 3 (by decide) (by decide)).2 (by decide) (by decide)).1 "hé" (by decide)
  · exact (exact 2 base).1 (by decide)
  · obtain ⟨_, ended⟩ := exact 1 (base + 2)
    refine ((ended 1 (by decide) (by decide)).2 (by decide) (by decide)).2 ?_
    intro text encoded
    have lone : bytesBefore block (base + 2) 1 = [0xa9] := by decide
    have undecodable : decodeText? [0xa9] = none := by decide
    have decoded := decodeText?_eq_some_iff.mpr encoded
    rw [lone, undecodable] at decoded
    cases decoded
  · obtain ⟨_, ended⟩ := exact 1 (base + 4)
    exact (ended 1 (by decide) (by decide)).1 (by decide)

end UserSpace

end OpenFiles
