import OpenFiles.Proofs.Service.Cursors
import OpenFiles.Proofs.Service.Sole
import OpenFiles.Proofs.Storage.Views

/-!
# Sizes and cursors are words

Contents grow by writes, and a write that would end outside the range of words is refused.
A cursor is moved only to where it stays a word. So if nobody else puts files of more bytes
than that into the tree, every size and every cursor is a word at all times: `Sized` are the
states of such a service. What is no regular file has no size at all.
-/

namespace OpenFiles

namespace Node

variable {node : Node}

def Plain (node : Node) : Prop := node.kind ≠ .regular → node.data = []

def Addressable (node : Node) : Prop := node.data.length < wordLimit

instance : DecidablePred Addressable := fun node =>
  inferInstanceAs (Decidable (node.data.length < wordLimit))

theorem wordLimit_pos : 0 < wordLimit := by decide

theorem durable_plain : Durable Plain :=
  durable_data (fun _ empty _ => empty) fun _ _ data kind kept other =>
    data.trans (kept (by rwa [← kind]))

theorem durable_addressable : Durable Addressable := by
  refine durable_data ?_ ?_
  · intro node empty
    rw [Addressable, empty]
    exact wordLimit_pos
  · intro node later data _ kept
    rwa [Addressable, data]

end Node

namespace FileTree

variable {fs : FileTree} {id : NodeId} {object : Object} {position : Nat} {data : Bytes}

theorem Each.plain_writeAt (plain : fs.Each Node.Plain) (object : Object) (position : Nat)
    (data : Bytes) : (fs.writeAt object position data).2.Each Node.Plain :=
  plain.writeAt object fun _ regular _ _ other => absurd regular other

theorem Each.addressable_writeAt (addressable : fs.Each Node.Addressable) (object : Object)
    (position : Nat) (data : Bytes) :
    (fs.writeAt object position data).2.Each Node.Addressable := by
  refine addressable.writeAt object fun node _ inside kept => ?_
  change (Node.overwrite node.data position data).length < wordLimit
  rw [Node.length_overwrite]
  exact Nat.max_lt.mpr ⟨kept, inside⟩

/-- A read ends with the contents at the latest. -/
theorem length_le_of_readAt {length : Nat}
    (answer : Storage.readAt object position length fs = .ok data) :
    data.length ≤ (fs.dataAt object.node).length - position := by
  obtain ⟨_, held⟩ := contains_of_readAt answer
  rw [held, ← List.length_drop]
  exact List.length_take_le' _ _

theorem Each.dataAt_eq_nil (plain : fs.Each Node.Plain) (other : fs.kindOf id ≠ some .regular) :
    fs.dataAt id = [] := by
  rw [dataAt]
  cases found : fs.node? id with
  | none => rfl
  | some node =>
      refine plain id node found fun regular => other ?_
      rw [kindOf, found, Option.map_some, regular]

theorem Each.length_dataAt_lt (addressable : fs.Each Node.Addressable) (id : NodeId) :
    (fs.dataAt id).length < wordLimit := by
  rw [dataAt]
  cases found : fs.node? id with
  | none => exact Node.wordLimit_pos
  | some node => exact addressable id node found

theorem Each.sizeOf_lt (addressable : fs.Each Node.Addressable) (object : Object) :
    sizeOf object fs < wordLimit := by
  rw [sizeOf_eq_length]
  exact addressable.length_dataAt_lt _

end FileTree

namespace Service

open FileTree

variable {κ : Type} [ByteDevice κ] {s : Service FileTree κ} {id : GroupId} {file : OpenFile}

/-- What is no regular file has no contents. -/
theorem Sole.plain (sole : Sole s) : s.storage.Each Node.Plain := by
  have filled (inode : Inode) (permission : UInt32) (data : Bytes) :
      ((Node.fresh inode .regular permission).withData data).Plain := fun other => absurd rfl other
  induction sole with
  | @built capacities console allotment s changes built =>
      obtain ⟨_, system, journal, _, rfl⟩ := eq_of_build built
      exact each_administered Node.durable_plain filled changes
  | @next s sole request ih =>
      exact each_next sole.balanced request Node.durable_plain ih fun object position data _ =>
        ih.plain_writeAt object position data
  | storage sole change ih => exact ih.after Node.durable_plain filled change
  | console sole console ih => exact ih
  | memory sole allotment bytes ih => exact ih

/-- The states of a service that alone opens the files of its tree, where nobody else
puts a file into the tree whose size is no word. -/
inductive Sized : Service FileTree κ → Prop
  | built {capacities : Capacities} {console : κ} {allotment : Allotment} {s : Service FileTree κ}
      (changes : List Change) (fits : (changes.foldl FileTree.after initial).Each Node.Addressable)
      (built : build capacities (changes.foldl FileTree.after initial) console allotment = .ok s) :
      Sized s
  | next {s : Service FileTree κ} (sized : Sized s) (request : Request) : Sized (s.next request)
  | storage {s : Service FileTree κ} (sized : Sized s) (change : Change)
      (fits : (s.storage.after change).Each Node.Addressable) :
      Sized (s.withStorage (s.storage.after change))
  | console {s : Service FileTree κ} (sized : Sized s) (console : κ) : Sized (s.withConsole console)
  | memory {s : Service FileTree κ} (sized : Sized s) (allotment : Allotment) (bytes : Nat) :
      Sized ((s.withAllotment allotment).withStorage (s.storage.withGranted bytes))

namespace Sized

theorem after (sized : Sized s) (history : List Request) : Sized (s.after history) := by
  induction history generalizing s with
  | nil => exact sized
  | cons request rest ih => exact ih (sized.next request)

theorem sole (sized : Sized s) : Sole s := by
  induction sized with
  | built changes fits built => exact .built changes built
  | next sized request ih => exact ih.next request
  | storage sized change fits ih => exact ih.storage change
  | console sized console ih => exact ih.console console
  | memory sized allotment bytes ih => exact ih.memory allotment bytes

theorem addressable (sized : Sized s) : s.storage.Each Node.Addressable := by
  induction sized with
  | @built capacities console allotment s changes fits built =>
      obtain ⟨_, system, journal, _, rfl⟩ := eq_of_build built
      exact fits
  | @next s sized request ih =>
      exact each_next sized.sole.balanced request Node.durable_addressable ih
        fun object position data _ => ih.addressable_writeAt object position data
  | storage sized change fits ih => exact fits
  | console sized console ih => exact ih
  | memory sized allotment bytes ih => exact ih

/-- Every cursor is a word. -/
theorem cursor_lt (sized : Sized s) (shown : s.tables.file? id = some file) :
    file.cursor < wordLimit := by
  induction sized generalizing id file with
  | built changes fits built =>
      obtain ⟨handle, member⟩ := (balanced_of_build built).exists_reference_of_file? shown
      obtain ⟨system, tables, _⟩ := tables_of_build built
      rw [tables] at member
      exact absurd member List.not_mem_nil
  | @next s sized request ih =>
      cases shows_next sized.sole.balanced shown with
      | kept before => exact ih before
      | read slot before granted answer inside => exact inside
      | wrote slot before positive granted answer inside => exact inside
      | sought slot before seekable answer inside => exact inside
      | @founded pid path flags permission fd id rights object held store asked granted answer
          slot unused =>
          dsimp only
          split
          · exact (sized.addressable.openPath Node.durable_addressable
              (openPath_of_openObject granted)).sizeOf_lt object
          · exact Node.wordLimit_pos
  | storage sized change fits ih => exact ih shown
  | console sized console ih => exact ih shown
  | memory sized allotment bytes ih => exact ih shown

/-- Wherever a transfer starts is a word. -/
theorem start_lt (sized : Sized s) (shown : s.tables.file? id = some file) :
    file.start s.storage < wordLimit := by
  rw [OpenFile.start]
  split
  · exact sized.addressable.sizeOf_lt file.object
  · exact sized.cursor_lt shown

/-- A read ends at a word: what it answers ends where the contents end, or is empty. -/
theorem read_end_lt (sized : Sized s) (shown : s.tables.file? id = some file) {length : Nat}
    {data : Bytes} (answer : Storage.readAt file.object file.cursor length s.storage = .ok data) :
    file.cursor + data.length < wordLimit := by
  have amount := FileTree.length_le_of_readAt answer
  have size := sized.addressable.length_dataAt_lt file.object.node
  have cursor := sized.cursor_lt shown
  omega

end Sized

end Service

end OpenFiles
