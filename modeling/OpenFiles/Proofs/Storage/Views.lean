import OpenFiles.Proofs.FileTree.Contents
import OpenFiles.Storage.Unreliable

/-!
# What a transfer does to a storage

`StorageView` says what is in the nodes of a storage. In a lawful storage a read
answers bytes that are there, and a write that is refused changes nothing at all. A write
that is granted may be short; what it has accepted is then in the node, unless the node is
no regular file, and nothing else has changed.

The file tree is lawful, and remains so when its transfers may fail or be cut short.
-/

namespace OpenFiles

/-- The nodes of a storage. -/
class StorageView (σ : Type) where
  /-- The contents of a node; without a node there are none. -/
  bytesAt : σ → NodeId → Bytes
  /-- The kind of a node. -/
  kindAt? : σ → NodeId → Option FileKind

namespace StorageView

variable {σ : Type} [StorageView σ]

def Contains (store : σ) (node : NodeId) (position : Nat) (data : Bytes) : Prop :=
  data = ((bytesAt store node).drop position).take data.length

/-- Data has got to a position of a node. A regular file has it in its contents then;
anything else that takes data keeps nothing. -/
inductive Landed (store : σ) (node : NodeId) (position : Nat) (data : Bytes) : σ → Prop
  | nothing (zero : data = []) : Landed store node position data store
  | swallowed (device : kindAt? store node ≠ some .regular) :
      Landed store node position data store
  | stored {after : σ} (inside : position + data.length < wordLimit)
      (replaced : bytesAt after node = Node.overwrite (bytesAt store node) position data)
      (others : ∀ other, other ≠ node → bytesAt after other = bytesAt store other) :
      Landed store node position data after

/-- What a write can do. A write that is granted may be a short one. -/
inductive Written (store : σ) (object : Object) (position : Nat) (data : Bytes) :
    Except Error Nat × σ → Prop
  | refused (reason : Error) : Written store object position data (.error reason, store)
  | granted {count : Nat} {after : σ} (within : count ≤ data.length)
      (landed : Landed store object.node position (data.take count) after) :
      Written store object position data (.ok count, after)

/-- What leaves the range of words has not gone into any contents. -/
theorem Landed.eq_of_outside {store after : σ} {node : NodeId} {position : Nat} {data : Bytes}
    (landed : Landed store node position data after)
    (outside : ¬ position + data.length < wordLimit) : after = store := by
  cases landed with
  | nothing zero => rfl
  | swallowed device => rfl
  | stored inside replaced others => exact absurd inside outside

end StorageView

open StorageView

/-- A storage whose transfers move what they say they move. -/
class LawfulStorage (σ : Type) [Storage σ] [StorageView σ] : Prop where
  contains_of_readAt {store : σ} {object : Object} {position length : Nat} {data : Bytes}
    (answer : Storage.readAt object position length store = .ok data) :
    data.length ≤ length ∧ Contains store object.node position data
  written (store : σ) (object : Object) (position : Nat) (data : Bytes) :
    Written store object position data (Storage.writeAt object position data store)

namespace FileTree

instance : StorageView FileTree where
  bytesAt := dataAt
  kindAt? := kindOf

/-- What a read answers is in the node. -/
theorem contains_of_readAt {fs : FileTree} {object : Object} {position length : Nat} {data : Bytes}
    (answer : fs.readAt object position length = .ok data) :
    data.length ≤ length ∧ Contains fs object.node position data := by
  rw [readAt] at answer
  split at answer
  · rename_i node found
    rw [Node.readAt_eq] at answer
    split at answer
    · cases answer
    · cases answer
      exact ⟨Nat.zero_le _, rfl⟩
    · cases answer
      exact ⟨Nat.zero_le _, rfl⟩
    · cases answer
      have there : bytesAt fs object.node = node.data := dataAt_of_node? found
      refine ⟨List.length_take_le _ _, ?_⟩
      rw [Contains, there, List.length_take]
      exact List.take_eq_take_min
  · cases answer

theorem written (fs : FileTree) (object : Object) (position : Nat) (data : Bytes) :
    Written fs object position data (fs.writeAt object position data) := by
  have outcome := stored fs object position data
  generalize fs.writeAt object position data = result at outcome
  cases outcome with
  | refused reason => exact .refused reason
  | @swallowed node found device =>
    refine .granted (Nat.le_refl _) (.swallowed ?_)
    intro regular
    have kind : fs.kindOf object.node = some node.kind := by rw [kindOf, found, Option.map_some]
    exact device (Option.some.inj (kind.symm.trans regular))
  | @stored node found regular inside =>
    refine .granted (Nat.le_refl _) ?_
    rw [List.take_length]
    refine .stored inside ?_ ?_
    · have before : bytesAt fs object.node = node.data := dataAt_of_node? found
      rw [before]
      have replaced : (fs.adjust object.node fun _ =>
          node.withData (Node.overwrite node.data position data)).node? object.node =
            some (node.withData (Node.overwrite node.data position data)) := by
        rw [node?_adjust, if_pos rfl, found, Option.map_some]
      exact dataAt_of_node? replaced
    · intro other apart
      exact dataAt_adjust_of_ne (Ne.symm apart)

instance : LawfulStorage FileTree where
  contains_of_readAt := contains_of_readAt
  written := written

end FileTree

namespace Unreliable

variable {σ : Type} [StorageView σ]

/-- An outage hides nothing. -/
instance : StorageView (Unreliable σ) where
  bytesAt storage := bytesAt storage.store
  kindAt? storage := kindAt? storage.store

variable [Storage σ] [LawfulStorage σ]

theorem contains_of_read {store : σ} {object : Object} {position length : Nat} {data : Bytes}
    (answer : object.read position length store = .ok data) :
    data.length ≤ length ∧ Contains store object.node position data := by
  rw [Object.read] at answer
  split at answer
  · cases answer
    exact ⟨Nat.zero_le _, rfl⟩
  · exact LawfulStorage.contains_of_readAt answer

theorem allowance_le (outages : Outages) (length : Nat) : outages.allowance length ≤ length := by
  rw [Outages.allowance]
  split
  · exact Nat.min_le_right _ _
  · exact Nat.le_refl _

instance : LawfulStorage (Unreliable σ) where
  contains_of_readAt {storage object position length data} answer := by
    simp only [Storage.readAt, readAt] at answer
    split at answer
    · cases answer
    · obtain ⟨within, held⟩ := contains_of_read answer
      exact ⟨Nat.le_trans within (allowance_le _ _), held⟩
  written storage object position data := by
    simp only [Storage.writeAt, writeAt, passOn]
    split
    · exact .refused _
    · rw [Object.write]
      split
      · exact .granted (Nat.zero_le _) (.nothing rfl)
      · generalize storage.outages.allowance data.length = most
        have outcome := LawfulStorage.written storage.store object position (data.take most)
        generalize Storage.writeAt object position (data.take most) storage.store = result
          at outcome
        cases outcome with
        | refused reason => exact .refused reason
        | granted within landed =>
          rw [List.length_take] at within
          rw [List.take_take, Nat.min_eq_left (by omega)] at landed
          refine .granted (by omega) ?_
          cases landed with
          | nothing zero => exact .nothing zero
          | swallowed device => exact .swallowed device
          | stored inside replaced others => exact .stored inside replaced others

end Unreliable

end OpenFiles
