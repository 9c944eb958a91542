import Mathlib.Algebra.Group.Nat.Defs
import OpenFiles.Proofs.FileTree.Contents
import OpenFiles.Proofs.UserSpace.Copies

/-!
# Regular files as arrays of bytes

A write lays its data over the contents of a regular file. What comes before and what comes
behind the data stays; a gap between the old end and the data is filled with zeros. `Overlaid`
says so byte by byte. A write is refused if its end is no word or the file cannot grow so far,
and then the tree is as it was. A read answers the bytes that are there, from its position on.

Positions may be anywhere: inside the contents, across their end, or far behind it.
-/

namespace OpenFiles

/-- The contents after some data was laid over them from a position on. -/
structure Overlaid (contents : Bytes) (position : Nat) (data after : Bytes) : Prop where
  length : after.length = max contents.length (position + data.length)
  covered : ∀ i, position ≤ i → i < position + data.length → after[i]? = data[i - position]?
  kept : ∀ i < contents.length, i < position ∨ position + data.length ≤ i →
    after[i]? = contents[i]?
  gap : ∀ i, contents.length ≤ i → i < position → after[i]? = some 0

namespace Node

theorem getElem?_overwrite (contents : Bytes) (position : Nat) (data : Bytes) (i : Nat) :
    (overwrite contents position data)[i]? =
      if i < position then (if i < contents.length then contents[i]? else some 0)
      else if i < position + data.length then data[i - position]? else contents[i]? := by
  have front : (contents.take position ++
      List.replicate (position - contents.length) 0).length = position := by
    rw [List.length_append, List.length_take, List.length_replicate]
    omega
  rw [overwrite, List.getElem?_append, List.getElem?_append, List.length_append, front]
  by_cases before : i < position
  · rw [if_pos (by omega), if_pos before, if_pos before, List.getElem?_append, List.length_take]
    by_cases old : i < contents.length
    · rw [if_pos (by omega), if_pos old, List.getElem?_take_of_lt before]
    · rw [if_neg (by omega), if_neg old, List.getElem?_replicate, if_pos (by omega)]
  · rw [if_neg before, if_neg before]
    by_cases within : i < position + data.length
    · rw [if_pos within, if_pos within]
    · rw [if_neg within, if_neg within, List.getElem?_drop]
      congr 1
      omega

theorem overlaid_overwrite (contents : Bytes) (position : Nat) (data : Bytes) :
    Overlaid contents position data (overwrite contents position data) where
  length := length_overwrite contents position data
  covered i above below := by
    rw [getElem?_overwrite, if_neg (Nat.not_lt.mpr above), if_pos below]
  kept i old outside := by
    rw [getElem?_overwrite]
    rcases outside with before | behind
    · rw [if_pos before, if_pos old]
    · rw [if_neg (by omega), if_neg (by omega)]
  gap i new before := by
    rw [getElem?_overwrite, if_pos before, if_neg (Nat.not_lt.mpr new)]

end Node

/-- What was laid over the contents can be taken out again. -/
theorem Overlaid.extract {contents data after : Bytes} {position : Nat}
    (overlaid : Overlaid contents position data after) :
    (after.drop position).take data.length = data := by
  apply List.ext_getElem?
  intro i
  by_cases within : i < data.length
  · rw [List.getElem?_take_of_lt within, List.getElem?_drop,
      overlaid.covered _ (Nat.le_add_right _ _) (by omega), Nat.add_sub_cancel_left]
  · rw [List.getElem?_take_eq_none (Nat.not_lt.mp within),
      List.getElem?_eq_none (Nat.not_lt.mp within)]

namespace FileTree

variable {fs later : FileTree} {object : Object} {position length : Nat} {data : Bytes}

/-- What a write of some bytes to a regular file can do. It is refused if its end is no word,
and otherwise if the file would have to grow too far; then nothing changes. In all other cases
the data is laid over the contents, and nothing else changes. -/
inductive Overwriting (fs : FileTree) (object : Object) (position : Nat) (data : Bytes) :
    Except Error Nat × FileTree → Prop
  | invalid (outside : 2 ^ 64 - 1 < position + data.length) :
      Overwriting fs object position data (.error .invalidArgument, fs)
  | full (inside : position + data.length ≤ 2 ^ 64 - 1)
      (grows : (fs.dataAt object.node).length < position + data.length)
      (large : fs.granted ≤ position + data.length) :
      Overwriting fs object position data (.error .noSpace, fs)
  | written {after : Bytes} (inside : position + data.length ≤ 2 ^ 64 - 1)
      (room : (fs.dataAt object.node).length < position + data.length →
        position + data.length < fs.granted)
      (overlaid : Overlaid (fs.dataAt object.node) position data after) :
      Overwriting fs object position data
        (.ok data.length, fs.adjust object.node (·.withData after))

theorem overwriting (position : Nat) (regular : fs.kindOf object.node = some .regular)
    (positive : data ≠ []) :
    Overwriting fs object position data (object.write position data fs) := by
  obtain ⟨node, found, kind⟩ := Option.map_eq_some_iff.mp regular
  have limit : wordLimit = 2 ^ 64 := rfl
  rw [Object.write, if_neg positive]
  simp only [Storage.writeAt, FileTree.writeAt, found, Node.writeAt, kind]
  split
  · rw [adjust_self found]
    exact .invalid (by omega)
  · split
    · rw [adjust_self found]
      rename_i refused
      rw [← dataAt_of_node? found] at refused
      exact .full (by omega) refused.1 refused.2
    · rename_i room
      rw [← dataAt_of_node? found] at room
      have overlaid := Node.overlaid_overwrite (fs.dataAt object.node) position data
      have stored : fs.adjust object.node (fun _ => node.withData (Node.overwrite node.data
          position data)) = fs.adjust object.node (·.withData (Node.overwrite
            (fs.dataAt object.node) position data)) := by
        rw [dataAt_of_node? found]
        exact adjust_congr found rfl
      dsimp only
      rw [stored]
      exact .written (by omega) (by omega) overlaid

/-- A file that gets other contents has them then, and stays a regular file. -/
theorem withData_regular {id : NodeId} (regular : fs.kindOf id = some .regular) (after : Bytes) :
    (fs.adjust id (·.withData after)).dataAt id = after ∧
      (fs.adjust id (·.withData after)).kindOf id = some .regular := by
  obtain ⟨node, found, kind⟩ := Option.map_eq_some_iff.mp regular
  have there : (fs.adjust id (·.withData after)).node? id = some (node.withData after) := by
    rw [node?_adjust, if_pos rfl, found, Option.map_some]
  exact ⟨dataAt_of_node? there, by rw [kindOf, there, Option.map_some]; exact congrArg some kind⟩

/-- What a read of a regular file answers. -/
theorem read_regular (regular : fs.kindOf object.node = some .regular) (position length : Nat) :
    object.read position length fs = .ok (((fs.dataAt object.node).drop position).take length) := by
  obtain ⟨node, found, kind⟩ := Option.map_eq_some_iff.mp regular
  rw [Object.read, dataAt_of_node? found]
  split
  · rename_i zero
    rw [zero, List.take_zero]
  · simp only [Storage.readAt, FileTree.readAt, found, Node.readAt_eq, kind]

/-- A read into a buffer puts the bytes at its front and leaves the rest of it alone. -/
theorem readInto_regular (regular : fs.kindOf object.node = some .regular) (position : Nat)
    (buffer : Bytes) :
    fs.readInto object position buffer =
      (.ok (((fs.dataAt object.node).drop position).take buffer.length).length,
        ((fs.dataAt object.node).drop position).take buffer.length ++
          buffer.drop (((fs.dataAt object.node).drop position).take buffer.length).length) := by
  obtain ⟨node, found, kind⟩ := Option.map_eq_some_iff.mp regular
  simp only [readInto, found, Node.readInto_eq, Node.readAt_eq, kind, dataAt_of_node? found]

/-- What reads of contents answer: the bytes from a position on, as many as were asked for and
are there. In the destination, whatever it held, they take the first places, and its rest is as
before. So it is in a buffer of the user, and the rest of the memory is as before, too. -/
structure Yields (fs : FileTree) (object : Object) (contents : Bytes) (position length : Nat) :
    Prop where
  answer : object.read position length fs =
    .ok (contents.extract position (min (position + length) contents.length))
  behind : contents.length ≤ position → object.read position length fs = .ok []
  filled : ∀ buffer : Bytes, buffer.length = length →
    ∃ data, object.read position length fs = .ok data ∧
      fs.readInto object position buffer = (.ok data.length, data ++ buffer.drop data.length)
  delivered : ∀ {μ : Type} [AddressSpace μ] [MemoryView μ] [LawfulMemory μ] (memory : μ)
    (start : Nat), AddressSpace.Obliging memory →
    (length ≠ 0 → AddressSpace.Usable memory start length .store) →
    ∃ data after, object.read position length fs = .ok data ∧
      (UserSpace.storeBuffer start length data).run memory = .ok data.length after ∧
      MemoryView.Stored memory start data after

theorem yields (regular : fs.kindOf object.node = some .regular) (position length : Nat) :
    Yields fs object (fs.dataAt object.node) position length := by
  have answer := read_regular regular position length
  refine ⟨?_, fun behind => ?_, fun buffer size => ?_, fun memory start obliging usable => ?_⟩
  · have upto : min length ((fs.dataAt object.node).drop position).length =
        min (position + length) (fs.dataAt object.node).length - position := by
      rw [List.length_drop]
      omega
    rw [answer, List.extract_eq_take_drop, ← upto, List.take_eq_take_min]
  · rw [answer, List.drop_eq_nil_of_le behind, List.take_nil]
  · rw [← size] at answer ⊢
    exact ⟨_, answer, readInto_regular regular position buffer⟩
  · obtain ⟨after, run, stored⟩ := UserSpace.run_storeBuffer obliging
      (List.length_take_le length ((fs.dataAt object.node).drop position)) usable
    exact ⟨_, after, answer, run, stored⟩

end FileTree

end OpenFiles
