import OpenFiles.UserSpace.Access
import OpenFiles.UserSpace.Guarded
import OpenFiles.UserSpace.MemoryBlock

/-!
# What checked accesses do to user memory

`MemoryView` says which byte is at which address. A user memory is lawful if asking and
fetching leave it as it is, and a store that succeeds puts the data where it belongs and
nothing anywhere else. It may still refuse a copy into a range that it has permitted; a
memory that does not is `Obliging`.

The lemmas on the checked accesses say when they succeed and what is in memory then. A
store into a buffer that was checked before cannot fail in an obliging memory: the second
check is on the same range and gets the same answer.
-/

namespace OpenFiles

/-- The bytes of a user memory. -/
class MemoryView (μ : Type) where
  /-- The byte at an address, if there is one. -/
  byte? : μ → Nat → Option UInt8

namespace MemoryView

variable {μ : Type} [MemoryView μ] {memory after : μ} {start : Nat} {data : Bytes}

/-- The data is in memory from `start` on. -/
def Shows (memory : μ) (start : Nat) (data : Bytes) : Prop :=
  ∀ i, i < data.length → byte? memory (start + i) = data[i]?

/-- The data was put into memory from `start` on, and no other byte has changed. -/
structure Stored (memory : μ) (start : Nat) (data : Bytes) (after : μ) : Prop where
  shown : Shows after start data
  others : ∀ address, address < start ∨ start + data.length ≤ address →
    byte? after address = byte? memory address

theorem Stored.nil (memory : μ) (start : Nat) : Stored memory start [] memory where
  shown i below := absurd below (Nat.not_lt_zero i)
  others _ _ := rfl

end MemoryView

open MemoryView

/-- A user memory that holds what is stored in it. -/
class LawfulMemory (μ : Type) [AddressSpace μ] [MemoryView μ] : Prop where
  /-- Asking changes nothing. -/
  permits_kept (start stop : Nat) (direction : Direction) (memory : μ) :
    (AddressSpace.permits start stop direction memory).2 = memory
  /-- Fetching changes nothing. -/
  fetch_kept (start length : Nat) (memory : μ) :
    (AddressSpace.fetch start length memory).2 = memory
  /-- What was fetched was there. -/
  shows_of_fetch {start length : Nat} {memory : μ} {bytes : Vector UInt8 length}
    (answer : (AddressSpace.fetch start length memory).1 = .ok bytes) :
    Shows memory start bytes.toList
  /-- What was stored is there. -/
  stored_of_store {start : Nat} {data : Bytes} {memory after : μ}
    (answer : AddressSpace.store start data memory = (.ok (), after)) :
    Stored memory start data after

namespace AddressSpace

variable {μ : Type} [AddressSpace μ]

/-- A range that the kernel may use: it is one of words, does not start at 0 and is
permitted. -/
structure Usable (memory : μ) (start length : Nat) (direction : Direction) : Prop where
  inside : start + length < wordLimit
  nonzero : start ≠ 0
  permitted : (permits start (start + length) direction memory).1 = true

/-- No store into a range that is permitted fails. -/
def Obliging (memory : μ) : Prop :=
  ∀ (start stop : Nat) (data : Bytes), (permits start stop .store memory).1 = true →
    start + data.length ≤ stop → (store start data memory).1 = .ok ()

end AddressSpace

namespace UserSpace

open OpenFiles.Action AddressSpace

variable {μ : Type} [AddressSpace μ] [MemoryView μ] [LawfulMemory μ] {memory : μ}
variable {start length : Nat} {direction : Direction} {data : Bytes}

theorem run_requireRange_of_usable (usable : Usable memory start length direction) :
    (requireRange start length direction).run memory = .ok () memory := by
  have inside := usable.inside
  have kept := LawfulMemory.permits_kept start (start + length) direction memory
  have checked : ¬ (wordLimit ≤ start + length ∨ start = 0) := by
    rintro (outside | zero)
    · omega
    · exact usable.nonzero zero
  rw [requireRange, if_neg checked]
  simp only [EStateM.run_bind, run_step, usable.permitted, if_true, kept, EStateM.run_pure]

/-- A range is usable, or the check refuses it and has changed nothing. -/
theorem run_requireRange (memory : μ) (start length : Nat) (direction : Direction) :
    Usable memory start length direction ∨
      (requireRange start length direction).run memory =
        .error (.refused .badAddress) memory := by
  by_cases checked : wordLimit ≤ start + length ∨ start = 0
  · right
    rw [requireRange, if_pos checked]
    rfl
  · obtain ⟨inside, nonzero⟩ := not_or.mp checked
    have kept := LawfulMemory.permits_kept start (start + length) direction memory
    cases permitted : (permits start (start + length) direction memory).1 with
    | true => exact .inl ⟨Nat.lt_of_not_le inside, nonzero, permitted⟩
    | false =>
      right
      rw [requireRange, if_neg checked]
      simp only [EStateM.run_bind, run_step, permitted, kept]
      rfl

inductive Requiring (memory : μ) (start length : Nat) : EStateM.Result Stop μ Unit → Prop
  | refused : Requiring memory start length (.error (.refused .badAddress) memory)
  | usable (usable : length ≠ 0 → Usable memory start length .store) :
      Requiring memory start length (.ok () memory)

theorem requiring (memory : μ) (start length : Nat) :
    Requiring memory start length ((requireBuffer start length).run memory) := by
  rw [requireBuffer]
  by_cases zero : length = 0
  · rw [if_pos zero]
    exact .usable fun positive => absurd zero positive
  · rw [if_neg zero]
    obtain usable | refused := run_requireRange memory start length .store
    · rw [run_requireRange_of_usable usable]
      exact .usable fun _ => usable
    · rw [refused]
      exact .refused

inductive Loading (memory : μ) (start length : Nat) : EStateM.Result Stop μ Bytes → Prop
  | refused (reason : Error) : Loading memory start length (.error (.refused reason) memory)
  | loaded {data : Bytes} (whole : data.length = length) (shown : Shows memory start data) :
      Loading memory start length (.ok data memory)

theorem loading (memory : μ) (start length granted : Nat) :
    Loading memory start length ((loadBuffer start length granted).run memory) := by
  rw [loadBuffer]
  by_cases zero : length = 0
  · rw [if_pos zero]
    exact .loaded zero.symm fun i below => absurd below (Nat.not_lt_zero i)
  · rw [if_neg zero, EStateM.run_bind]
    obtain usable | refused := run_requireRange memory start length .fetch
    · rw [run_requireRange_of_usable usable]
      by_cases large : granted ≤ length
      · simp only [if_pos large]
        exact .refused .noMemory
      · simp only [if_neg large, fetchChecked, EStateM.run_bind, run_step,
          LawfulMemory.fetch_kept start length memory]
        cases answer : (fetch start length memory).1 with
        | error reason => exact .refused reason
        | ok bytes =>
          exact .loaded bytes.size_toArray (LawfulMemory.shows_of_fetch answer)
    · rw [refused]
      exact .refused .badAddress

/-- Data that fits into a usable buffer can be stored in an obliging memory. -/
theorem run_storeBuffer (obliging : Obliging memory) (fits : data.length ≤ length)
    (usable : length ≠ 0 → Usable memory start length .store) :
    ∃ after, (storeBuffer start length data).run memory = .ok data.length after ∧
      Stored memory start data after := by
  rw [storeBuffer, List.take_of_length_le fits]
  by_cases empty : data = []
  · subst empty
    exact ⟨memory, rfl, .nil memory start⟩
  · have positive : data.length ≠ 0 := fun zero => empty (List.length_eq_zero_iff.mp zero)
    have here : Usable memory start length .store := usable (by omega)
    have answer := obliging start (start + length) data here.permitted (by omega)
    refine ⟨(store start data memory).2, ?_, LawfulMemory.stored_of_store (Prod.ext answer rfl)⟩
    simp only [if_neg empty, EStateM.run_bind, run_requireRange_of_usable here, run_step, answer]
    rfl

end UserSpace

namespace MemoryBlock

instance : MemoryView MemoryBlock where
  byte? block address := if base ≤ address then block.bytes[address - base]? else none

theorem byte?_add (block : MemoryBlock) (offset : Nat) :
    byte? block (base + offset) = block.bytes[offset]? := by
  simp only [MemoryView.byte?, Nat.le_add_right, if_true, Nat.add_sub_cancel_left]

theorem byte?_of_lt_base {block : MemoryBlock} {address : Nat} (below : address < base) :
    byte? block address = none := if_neg (Nat.not_le_of_lt below)

theorem shows_of_fetch {block : MemoryBlock} {start length : Nat} {bytes : Vector UInt8 length}
    (answer : block.fetch start length = .ok bytes) : Shows block start bytes.toList := by
  rw [fetch] at answer
  split at answer
  · rename_i inside
    obtain ⟨above, within⟩ := inside
    obtain ⟨offset, rfl⟩ := Nat.exists_eq_add_of_le above
    rw [← Except.ok.inj answer]
    intro i below
    rw [Nat.add_assoc, byte?_add]
    simp only [Vector.toList_mk, Nat.add_sub_cancel_left, Array.length_toList, Array.size_extract,
      Array.getElem?_toList] at below ⊢
    rw [Array.getElem?_extract, if_pos (by omega)]
  · cases answer

/-- A part of an array is replaced, the rest stays in its place. -/
theorem getElem?_splice {bytes : Array UInt8} {offset : Nat} {data : Bytes}
    (within : offset + data.length ≤ bytes.size) (i : Nat) :
    (bytes.extract 0 offset ++ data.toArray ++
        bytes.extract (offset + data.length) bytes.size)[i]? =
      if offset ≤ i ∧ i < offset + data.length then data[i - offset]? else bytes[i]? := by
  have before : (bytes.extract 0 offset).size = offset := by
    rw [Array.size_extract]
    omega
  have upto : (bytes.extract 0 offset ++ data.toArray).size = offset + data.length := by
    rw [Array.size_append, before, List.size_toArray]
  rw [Array.getElem?_append, Array.getElem?_append, upto, before]
  by_cases low : i < offset
  · rw [if_pos (by omega), if_pos low, if_neg (by omega), Array.getElem?_extract, if_pos (by omega),
      Nat.zero_add]
  · by_cases amid : i < offset + data.length
    · rw [if_pos amid, if_neg low, if_pos (by omega)]
      exact List.getElem?_toArray
    · rw [if_neg amid, if_neg (by omega), Array.getElem?_extract,
        show offset + data.length + (i - (offset + data.length)) = i by omega]
      split
      · rfl
      · rw [Array.getElem?_eq_none (by omega)]

theorem stored_of_store {block after : MemoryBlock} {start : Nat} {data : Bytes}
    (answer : block.store start data = .ok after) : Stored block start data after := by
  rw [store] at answer
  split at answer
  · rename_i inside
    obtain ⟨above, within⟩ := inside
    obtain ⟨offset, rfl⟩ := Nat.exists_eq_add_of_le above
    rw [limit, Nat.add_assoc] at within
    have splice := getElem?_splice (Nat.le_of_add_le_add_left within)
    cases answer
    constructor
    · intro i below
      rw [Nat.add_assoc, byte?_add]
      simp only [Nat.add_sub_cancel_left, splice]
      rw [if_pos (by omega)]
    · intro address outside
      by_cases low : address < base
      · rw [byte?_of_lt_base low, byte?_of_lt_base low]
      · obtain ⟨offset', rfl⟩ := Nat.exists_eq_add_of_le (Nat.le_of_not_lt low)
        rw [byte?_add, byte?_add]
        simp only [Nat.add_sub_cancel_left, splice]
        rw [if_neg (by omega)]
  · cases answer

instance : LawfulMemory MemoryBlock where
  permits_kept _ _ _ _ := rfl
  fetch_kept _ _ _ := rfl
  shows_of_fetch answer := shows_of_fetch answer
  stored_of_store {start data block after} answer := by
    simp only [AddressSpace.store] at answer
    split at answer
    · rename_i stored
      cases answer
      exact stored_of_store stored
    · cases answer

/-- A block takes everything that it permits. -/
theorem obliging (block : MemoryBlock) : AddressSpace.Obliging block := by
  intro start stop data permitted fits
  have inside : block.contains start (start + data.length) = true := by
    simp only [AddressSpace.permits, contains, Bool.and_eq_true, decide_eq_true_eq] at permitted ⊢
    omega
  obtain ⟨after, stored⟩ := store_of_contains inside
  simp only [AddressSpace.store, stored]

end MemoryBlock

namespace Guarded

variable {μ : Type} [AddressSpace μ] [MemoryView μ]

/-- A guard hides nothing from its holder. -/
instance : MemoryView (Guarded μ) where
  byte? guarded := byte? guarded.space

instance [LawfulMemory μ] : LawfulMemory (Guarded μ) where
  permits_kept start stop direction guarded := by
    simp only [AddressSpace.permits, permits]
    split
    · simp only [onSpace, LawfulMemory.permits_kept]
    · rfl
  fetch_kept start length guarded := by
    simp only [AddressSpace.fetch, fetch]
    split
    · rfl
    · simp only [onSpace, LawfulMemory.fetch_kept]
  shows_of_fetch {start length guarded bytes} answer := by
    simp only [AddressSpace.fetch, fetch] at answer
    split at answer
    · cases answer
    · have shown : Shows guarded.space start bytes.toList := LawfulMemory.shows_of_fetch answer
      exact shown
  stored_of_store {start data guarded after} answer := by
    simp only [AddressSpace.store, store] at answer
    split at answer
    · cases answer
    · obtain ⟨stored, rfl⟩ := Prod.mk.inj answer
      have shown := LawfulMemory.stored_of_store (Prod.ext stored rfl)
      exact ⟨shown.shown, shown.others⟩

omit [MemoryView μ] in
/-- A guard that lets all stores through leaves an obliging memory obliging. -/
theorem obliging {guarded : Guarded μ} (obliging : AddressSpace.Obliging guarded.space)
    (through : guarded.guard.failStore = none) : AddressSpace.Obliging guarded := by
  intro start stop data permitted fits
  have bare : (AddressSpace.permits start stop .store guarded.space).1 = true := by
    simp only [AddressSpace.permits, permits] at permitted
    split at permitted
    · exact permitted
    · cases permitted
  simp only [AddressSpace.store, store, through]
  exact obliging start stop data bare fits

end Guarded

end OpenFiles
