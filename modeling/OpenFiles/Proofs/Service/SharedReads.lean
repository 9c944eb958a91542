import Mathlib.Algebra.Ring.Nat
import OpenFiles.Console.MemoryConsole
import OpenFiles.Proofs.Service.Appends
import OpenFiles.Proofs.Service.Words

/-!
# A shared cursor hands out every byte once

All members of a group read from one cursor. As long as nobody writes to the file, empties
it, or sends the cursor elsewhere, the reads through the members hand out the contents
from the cursor on, in the order of the calls and up to the end, no byte twice and none left
out: `reads_hand_out_contents`. Who reads makes no difference, nor who joins the group or
leaves it in between, or what happens to other groups on the same file.

`readsThrough` are these reads with their answers. They end with the group, even if its
number is in use again later: `lifetime` is the part of a history that a group lives to see.
-/

namespace OpenFiles

namespace Service

open OpenFiles.Action FileTree

section Reads

variable {σ κ : Type} [Storage σ] [ByteDevice κ]

/-- The requests of a history up to the one that dissolves a group, each with the state
that it was put to. -/
def lifetime (s : Service σ κ) (id : GroupId) : List Request → List (Service σ κ × Request)
  | [] => []
  | request :: rest =>
    (s, request) ::
      if ((s.next request).tables.file? id).isSome then (s.next request).lifetime id rest else []

/-- A read through a member of a group: its length and its answer. -/
def readThrough (s : Service σ κ) (id : GroupId) : Request → Option (Nat × Except Stop Reply)
  | .read pid fd length =>
    if s.tables.slot? ⟨pid, fd⟩ = some (.shared id) then
      some (length, ((perform (.read pid fd length)).outcome s).1)
    else none
  | _ => none

def readsThrough (s : Service σ κ) (id : GroupId) (history : List Request) :
    List (Nat × Except Stop Reply) :=
  (s.lifetime id history).filterMap fun step => step.1.readThrough id step.2

def Endures (s : Service σ κ) (id : GroupId) (history : List Request) : Prop :=
  ∀ first rest, history = first ++ rest → ((s.after first).tables.file? id).isSome

variable {s : Service σ κ} {id : GroupId} {request : Request} {rest : List Request}

theorem Endures.next (endures : s.Endures id (request :: rest)) :
    (s.next request).Endures id rest :=
  fun first second split => endures (request :: first) second (congrArg (request :: ·) split)

theorem Endures.live (endures : s.Endures id (request :: rest)) :
    ∃ file, (s.next request).tables.file? id = some file :=
  Option.isSome_iff_exists.mp (endures [request] rest rfl)

theorem lifetime_of_live {file : OpenFile}
    (live : (s.next request).tables.file? id = some file) :
    s.lifetime id (request :: rest) = (s, request) :: (s.next request).lifetime id rest := by
  rw [lifetime, live]
  rfl

theorem lifetime_of_gone (gone : (s.next request).tables.file? id = none) :
    s.lifetime id (request :: rest) = [(s, request)] := by
  rw [lifetime, gone]
  rfl

theorem mem_of_mem_lifetime {history : List Request} {step : Service σ κ × Request}
    (member : step ∈ s.lifetime id history) : step.2 ∈ history := by
  induction history generalizing s with
  | nil => exact absurd member List.not_mem_nil
  | cons request rest ih =>
      rcases List.mem_cons.mp member with rfl | later
      · exact List.mem_cons_self
      · split at later
        · exact List.mem_cons_of_mem _ (ih later)
        · exact absurd later List.not_mem_nil

theorem readThrough_of_slot {pid : Pid} {fd : Descriptor} (length : Nat)
    (slot : s.tables.slot? ⟨pid, fd⟩ = some (.shared id)) :
    s.readThrough id (.read pid fd length) =
      some (length, ((perform (.read pid fd length)).outcome s).1) := if_pos slot

/-- What reads through a group is a read through one of its members. -/
theorem readThrough_eq_some {length : Nat} {answer : Except Stop Reply}
    (through : s.readThrough id request = some (length, answer)) :
    ∃ pid fd, request = .read pid fd length ∧ s.tables.slot? ⟨pid, fd⟩ = some (.shared id) ∧
      answer = ((perform request).outcome s).1 := by
  cases request with
  | read pid fd size =>
      rw [readThrough] at through
      split at through
      · rename_i slot
        cases through
        exact ⟨pid, fd, rfl, slot, rfl⟩
      · cases through
  | _ => cases through

end Reads

variable {κ : Type} [ByteDevice κ] {s : Service FileTree κ} {id : GroupId} {node : NodeId}
variable {request : Request} {file later : OpenFile}

/-- The request neither writes to a node nor empties it, and does not seek through a group.
Writes and seeks that are refused do no harm, and neither does a write of no bytes. -/
def LeavesAlone (s : Service FileTree κ) (id : GroupId) (node : NodeId) : Request → Prop
  | .write pid fd data =>
    data ≠ [] → ∀ file reply, s.tables.target? ⟨pid, fd⟩ = some file → file.object.node = node →
      ((perform (.write pid fd data)).outcome s).1 ≠ .ok reply
  | .openPath _ path flags _ => ¬ Emptied s.storage path flags node
  | .seek pid fd distance whence =>
    s.tables.slot? ⟨pid, fd⟩ = some (.shared id) →
      ∀ reply, ((perform (.seek pid fd distance whence)).outcome s).1 ≠ .ok reply
  | _ => True

/-- What a read of so many bytes takes from the contents at a cursor. -/
def share (contents : Bytes) (cursor length : Nat) : Bytes := (contents.drop cursor).take length

omit [ByteDevice κ] in
theorem length_share (contents : Bytes) (cursor length : Nat) :
    (share contents cursor length).length = min length (contents.length - cursor) := by
  rw [share, List.length_take, List.length_drop]

omit [ByteDevice κ] in
/-- One share after the other makes one share of both lengths. -/
theorem share_append_share (contents : Bytes) (cursor first second : Nat) :
    share contents cursor first ++
        share contents (cursor + (share contents cursor first).length) second =
      share contents cursor (first + second) := by
  rw [length_share, share, share, share, List.take_add, List.drop_drop]
  congr 1
  by_cases inside : first ≤ contents.length - cursor
  · rw [Nat.min_eq_left inside]
  · rw [Nat.min_eq_right (by omega), List.drop_eq_nil_of_le (by omega),
      List.drop_eq_nil_of_le (by omega)]

omit [ByteDevice κ] in
theorem readAt_of_regular (regular : s.storage.kindOf file.object.node = some .regular)
    (length : Nat) :
    Storage.readAt file.object file.cursor length s.storage =
      .ok (share (s.storage.dataAt file.object.node) file.cursor length) := by
  obtain ⟨node, found, kind⟩ := Option.map_eq_some_iff.mp regular
  simp only [Storage.readAt, FileTree.readAt, found, Node.readAt_eq, kind, dataAt_of_node? found,
    share]

/-- A read through a member of a group takes a share of the contents at the cursor, and
moves the cursor behind it, if that is a word. -/
theorem read_member_inside (balanced : s.tables.Balanced) {pid : Pid} {fd : Descriptor}
    (slot : s.tables.slot? ⟨pid, fd⟩ = some (.shared id)) (shown : s.tables.file? id = some file)
    (readable : file.rights.read = true)
    (regular : s.storage.kindOf file.object.node = some .regular) {length : Nat}
    (inside : length ≠ 0 → file.cursor +
      (share (s.storage.dataAt file.object.node) file.cursor length).length < wordLimit) :
    ((perform (.read pid fd length)).outcome s).1 =
        .ok (.data (share (s.storage.dataAt file.object.node) file.cursor length)) ∧
      (s.next (.read pid fd length)).storage = s.storage ∧
      (s.next (.read pid fd length)).tables.file? id = some { file with
        cursor := file.cursor +
          (share (s.storage.dataAt file.object.node) file.cursor length).length } := by
  have run : (perform (.read pid fd length)).run s =
      (read pid fd length >>= fun data => pure (.data data)).run s := rfl
  rw [outcome_eq, next_eq, run, EStateM.run_bind, run_read_of_slot slot]
  by_cases zero : length = 0
  · rw [zero, run_readShared_zero shown readable]
    exact ⟨rfl, rfl, shown⟩
  · obtain ⟨after, moves⟩ := Tables.Accounts.repositioning balanced
      (Tables.mem_references_iff.mpr slot)
      (file.cursor + (share (s.storage.dataAt file.object.node) file.cursor length).length)
    rw [run_readShared shown readable zero]
    simp only [EStateM.run_bind, readAt_of_regular regular, orRefuse_ok, EStateM.run_pure,
      run_advance (inside zero) moves, true_and]
    exact ⟨rfl, (moves.files _).trans (by rw [if_pos rfl, shown]; rfl)⟩

theorem read_member (sized : Sized s) {pid : Pid} {fd : Descriptor}
    (slot : s.tables.slot? ⟨pid, fd⟩ = some (.shared id)) (shown : s.tables.file? id = some file)
    (readable : file.rights.read = true)
    (regular : s.storage.kindOf file.object.node = some .regular) (length : Nat) :
    ((perform (.read pid fd length)).outcome s).1 =
        .ok (.data (share (s.storage.dataAt file.object.node) file.cursor length)) ∧
      (s.next (.read pid fd length)).storage = s.storage ∧
      (s.next (.read pid fd length)).tables.file? id = some { file with
        cursor := file.cursor +
          (share (s.storage.dataAt file.object.node) file.cursor length).length } :=
  read_member_inside sized.sole.balanced slot shown readable regular fun _ =>
    sized.read_end_lt shown (readAt_of_regular regular length)

/-- Without a read through the group, what leaves the group alone leaves its cursor where it
is. -/
theorem file?_next (balanced : s.tables.Balanced) (shown : s.tables.file? id = some file)
    (alone : s.LeavesAlone id file.object.node request)
    (other : s.readThrough id request = none)
    (live : (s.next request).tables.file? id = some later) : later = file := by
  have same {before : OpenFile} (there : s.tables.file? id = some before) : before = file :=
    Option.some.inj (there.symm.trans shown)
  cases shows_next balanced live with
  | kept there => exact same there
  | read slot there granted answer inside =>
      rw [readThrough_of_slot _ slot] at other
      cases other
  | wrote slot there positive granted answer inside =>
      have target := Tables.target?_eq_some.mpr ⟨id, slot, shown⟩
      exact absurd answer (alone positive file _ target rfl)
  | sought slot there seekable answer inside => exact absurd answer (alone slot _)
  | founded asked granted answer slot unused => cases shown.symm.trans unused

/-- What leaves a node alone leaves its contents, as long as a descriptor is on it. -/
theorem dataAt_of_leavesAlone (sole : Sole s) (alone : s.LeavesAlone id node request)
    (held : (s.next request).HoldsNode node) :
    (s.next request).storage.dataAt node = s.storage.dataAt node := by
  by_contra changed
  cases rewrites_of_dataAt_ne sole.balanced changed with
  | written slot shown writable here positive answer =>
      have target := Tables.target?_eq_some.mpr ⟨_, slot, shown⟩
      exact alone positive _ _ target here answer
  | emptied emptied => exact alone emptied
  | dropped spent => exact (sole.next request).not_spentAt_of_holdsNode held spent

/-- What a request does to a group that it leaves alone and that lives on. A read through
the group takes a share, any other request takes nothing; the cursor is behind what was
taken, and the file is as it was. -/
inductive Advances (s : Service FileTree κ) (id : GroupId) (file : OpenFile) (request : Request) :
    OpenFile → Prop
  | took {length : Nat} (through : s.readThrough id request = some (length,
      .ok (.data (share (s.storage.dataAt file.object.node) file.cursor length)))) :
      Advances s id file request { file with cursor := file.cursor +
        (share (s.storage.dataAt file.object.node) file.cursor length).length }
  | stayed (other : s.readThrough id request = none) : Advances s id file request file

/-- A read through a group leaves it live. -/
theorem live_of_readThrough (sized : Sized s) (shown : s.tables.file? id = some file)
    (readable : file.rights.read = true)
    (regular : s.storage.kindOf file.object.node = some .regular) {read : Nat × Except Stop Reply}
    (through : s.readThrough id request = some read) :
    (s.next request).tables.file? id ≠ none := by
  obtain ⟨pid, fd, rfl, slot, _⟩ := readThrough_eq_some through
  rw [(read_member sized slot shown readable regular _).2.2]
  exact Option.some_ne_none _

theorem advances_next (sized : Sized s) (shown : s.tables.file? id = some file)
    (readable : file.rights.read = true)
    (regular : s.storage.kindOf file.object.node = some .regular)
    (alone : s.LeavesAlone id file.object.node request)
    (live : (s.next request).tables.file? id = some later) :
    Advances s id file request later ∧
      (s.next request).storage.dataAt file.object.node = s.storage.dataAt file.object.node := by
  cases through : s.readThrough id request with
  | none =>
      obtain rfl := file?_next sized.sole.balanced shown alone through live
      exact ⟨.stayed through, dataAt_of_leavesAlone sized.sole alone
        ⟨_, holds_of_file? (sized.next request).sole.balanced live, rfl⟩⟩
  | some read =>
      obtain ⟨length, answer⟩ := read
      obtain ⟨pid, fd, rfl, slot, rfl⟩ := readThrough_eq_some through
      obtain ⟨answer, storage, moved⟩ := read_member sized slot shown readable regular length
      rw [live, Option.some.injEq] at moved
      rw [answer] at through
      subst moved
      exact ⟨.took through, by rw [storage]⟩

def asked (reads : List (Nat × Except Stop Reply)) : Nat := (reads.map Prod.fst).sum

/-- The reads through a group, over a history that leaves it alone, take one share of the
contents together, and the cursor is behind it. -/
theorem reads_take_share (sized : Sized s) (shown : s.tables.file? id = some file)
    (readable : file.rights.read = true)
    (regular : s.storage.kindOf file.object.node = some .regular) {history : List Request}
    (alone : ∀ step ∈ s.lifetime id history, step.1.LeavesAlone id file.object.node step.2) :
    ∃ pieces : List Bytes,
      (s.readsThrough id history).map Prod.snd = pieces.map (fun bytes => .ok (.data bytes)) ∧
      pieces.flatten = share (s.storage.dataAt file.object.node) file.cursor
        (asked (s.readsThrough id history)) ∧
      (s.Endures id history → (s.after history).tables.file? id = some { file with
        cursor := file.cursor + pieces.flatten.length }) := by
  induction history generalizing s file with
  | nil => exact ⟨[], rfl, rfl, fun _ => shown⟩
  | cons request rest ih =>
      cases live : (s.next request).tables.file? id with
      | none =>
          -- The request has dissolved the group, so it was no read through it.
          have other : s.readThrough id request = none := by
            rw [Option.eq_none_iff_forall_ne_some]
            exact fun read through =>
              live_of_readThrough sized shown readable regular through live
          have nothing : s.readsThrough id (request :: rest) = [] := by
            rw [readsThrough, lifetime_of_gone live]
            simp only [List.filterMap_cons, other, List.filterMap_nil]
          refine ⟨[], by rw [nothing]; rfl, by rw [nothing]; rfl, fun endures => ?_⟩
          obtain ⟨later, there⟩ := endures.live
          cases live.symm.trans there
      | some later =>
          rw [lifetime_of_live live] at alone
          obtain ⟨first, others⟩ := List.forall_mem_cons.mp alone
          obtain ⟨advances, contents⟩ := advances_next sized shown readable regular first live
          have kind := kindOf_after sized.sole regular [request]
          have reads : s.readsThrough id (request :: rest) =
              (s.readThrough id request).toList ++ (s.next request).readsThrough id rest := by
            rw [readsThrough, lifetime_of_live live, List.filterMap_cons]
            cases s.readThrough id request <;> simp only <;> rfl
          cases advances with
          | stayed other =>
              obtain ⟨pieces, answers, taken, cursor⟩ :=
                ih (sized.next request) live readable kind others
              rw [reads, other, ← contents]
              exact ⟨pieces, answers, taken, fun endures => cursor endures.next⟩
          | @took length through =>
              obtain ⟨pieces, answers, taken, cursor⟩ :=
                ih (sized.next request) live readable kind others
              rw [reads, through]
              refine ⟨_ :: pieces, congrArg (_ :: ·) answers, ?_, fun endures => ?_⟩
              · rw [List.flatten_cons, taken, contents]
                exact share_append_share _ _ _ _
              · rw [List.flatten_cons, List.length_append, ← Nat.add_assoc]
                exact cursor endures.next

/-- A shared cursor hands out every byte once. Let a group with read rights be on a regular
file, and let nobody write to the file, empty it or seek through the group while it lives.
Then all reads through its members are granted, and what they return, put together in the
order of the calls, is the contents from the cursor on, as much of it as was asked for in all
and is there. Every member that is left then tells the position behind that. -/
theorem reads_hand_out_contents (sized : Sized s) (shown : s.tables.file? id = some file)
    (readable : file.rights.read = true)
    (regular : s.storage.kindOf file.object.node = some .regular) {history : List Request}
    (alone : ∀ step ∈ s.lifetime id history, step.1.LeavesAlone id file.object.node step.2) :
    ∃ (pieces : List Bytes) (handed : Nat),
      handed = min (asked (s.readsThrough id history))
        ((s.storage.dataAt file.object.node).length - file.cursor) ∧
      (s.readsThrough id history).map Prod.snd = pieces.map (fun bytes => .ok (.data bytes)) ∧
      pieces.flatten = ((s.storage.dataAt file.object.node).drop file.cursor).take handed ∧
      (s.Endures id history → ∀ pid fd,
        (s.after history).tables.slot? ⟨pid, fd⟩ = some (.shared id) →
        ((perform (.tell pid fd)).outcome (s.after history)).1 =
          .ok (.number (file.cursor + handed))) := by
  obtain ⟨pieces, answers, taken, cursor⟩ := reads_take_share sized shown readable regular alone
  have amount : pieces.flatten.length = min (asked (s.readsThrough id history))
      ((s.storage.dataAt file.object.node).length - file.cursor) := by
    rw [taken, length_share]
  refine ⟨pieces, _, rfl, answers, ?_, fun endures pid fd slot => ?_⟩
  · rw [taken, share, List.take_eq_take_min, List.length_drop]
  · rw [← amount]
    exact tell_of_file? (sized.after history).sole.balanced slot (cursor endures)

/-- A parent reads two bytes of seven and forks. The child, a duplicate and the child again
read the rest, which ends in the middle of the second read, while another descriptor on the
file reads and is closed. -/
theorem reads_hand_out_contents_to_child :
    ∃ start : Service FileTree MemoryConsole,
      build ⟨3, 6⟩ ([.createFile "/a" [1, 2, 3, 4, 5, 6, 7]].foldl FileTree.after initial)
        (.ofCapacity 4) = .ok start ∧
      ∃ pieces : List Bytes,
        ((start.after [.createProcess ⟨1⟩, .openPath ⟨1⟩ "/a" (.ofBits 0) 0, .read ⟨1⟩ ⟨3⟩ 2,
          .openPath ⟨1⟩ "/a" (.ofBits 0) 0, .forkProcess ⟨1⟩ ⟨2⟩]).readsThrough ⟨0⟩
            [.read ⟨2⟩ ⟨3⟩ 1, .duplicate ⟨1⟩ ⟨3⟩ ⟨5⟩, .close ⟨1⟩ ⟨3⟩, .read ⟨1⟩ ⟨4⟩ 3,
              .read ⟨1⟩ ⟨5⟩ 3, .close ⟨1⟩ ⟨4⟩, .read ⟨2⟩ ⟨3⟩ 3]).map Prod.snd =
          pieces.map (fun bytes => .ok (.data bytes)) ∧
        pieces.flatten = [3, 4, 5, 6, 7] := by
  have built : build ⟨3, 6⟩
    ([.createFile "/a" [1, 2, 3, 4, 5, 6, 7]].foldl FileTree.after initial)
    (MemoryConsole.ofCapacity 4) = .ok _ := rfl
  have sized := (Sized.built _ (each_of_nodes (by decide)) built).after [.createProcess ⟨1⟩,
    .openPath ⟨1⟩ "/a" (.ofBits 0) 0, .read ⟨1⟩ ⟨3⟩ 2, .openPath ⟨1⟩ "/a" (.ofBits 0) 0,
    .forkProcess ⟨1⟩ ⟨2⟩]
  have alone (s : Service FileTree MemoryConsole) (node : NodeId) :
      ∀ step ∈ s.lifetime ⟨0⟩ [.read ⟨2⟩ ⟨3⟩ 1, .duplicate ⟨1⟩ ⟨3⟩ ⟨5⟩, .close ⟨1⟩ ⟨3⟩,
        .read ⟨1⟩ ⟨4⟩ 3, .read ⟨1⟩ ⟨5⟩ 3, .close ⟨1⟩ ⟨4⟩, .read ⟨2⟩ ⟨3⟩ 3],
      step.1.LeavesAlone ⟨0⟩ node step.2 := by
    rintro ⟨before, request⟩ member
    have asked := mem_of_mem_lifetime member
    simp only [List.mem_cons, List.not_mem_nil, or_false] at asked
    rcases asked with rfl | rfl | rfl | rfl | rfl | rfl | rfl <;> trivial
  obtain ⟨pieces, handed, amount, answers, taken, _⟩ :=
    reads_hand_out_contents sized (by rfl) (by rfl) (by rfl) (alone _ _)
  refine ⟨_, built, pieces, answers, ?_⟩
  rw [taken, amount]
  decide +kernel

end Service

end OpenFiles
