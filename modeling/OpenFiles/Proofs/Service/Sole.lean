import OpenFiles.Proofs.FileTree.Contents
import OpenFiles.Proofs.Service.Anchors
import OpenFiles.Proofs.Service.Footprint

/-!
# A service that alone opens the files of its tree

`Sole` are the states of a service over a tree whose objects are all opened through
it. Others may administer the tree, before the service is built and afterwards.

Then the counts of every node are accounted for: no more releases than opens, and
fewer as long as a descriptor is on the node. So a node that a descriptor is on is not
spent, and spent nodes have no contents.
-/

namespace OpenFiles

namespace Service

open FileTree

variable {κ : Type} {s later : Service FileTree κ} {opened : Option Object} {id : NodeId}

def HoldsNode (s : Service FileTree κ) (id : NodeId) : Prop :=
  ∃ object, s.Holds object ∧ object.node = id

/-- The opens of a node cover its releases, and one more if a descriptor is on it. -/
structure Accounted (s : Service FileTree κ) (id : NodeId) : Prop where
  matched : s.storage.releasesAt id ≤ s.storage.opensAt id
  held : s.HoldsNode id → s.storage.releasesAt id < s.storage.opensAt id

theorem holdsNode_of_slot {handle : Handle} {group : GroupId} {file : OpenFile}
    (slot : s.tables.slot? handle = some (.shared group))
    (shown : s.tables.file? group = some file) : s.HoldsNode file.object.node :=
  ⟨file.object, ⟨(handle, group), Tables.mem_references_iff.mpr slot, file, shown, rfl⟩, rfl⟩

/-- A descriptor on a node refers to its inode number. -/
theorem Anchored.refers_of_holdsNode (anchored : s.Anchored) (held : s.HoldsNode id) {node : Node}
    (found : s.storage.node? id = some node) : s.Refers node.inode := by
  obtain ⟨object, held, rfl⟩ := held
  obtain ⟨node', found', number, _⟩ := anchored object held
  rw [found, Option.some.injEq] at found'
  subst found'
  exact refers_iff_holds.mpr ⟨object, held, number.symm⟩

/-- An open counts for the node of the object, and nothing else that is asked of a tree
counts for any. -/
theorem opensAt_of_asked {fs later : FileTree} (asked : Asked fs opened later) (id : NodeId) :
    later.opensAt id = fs.opensAt id + if opened.map Object.node = some id then 1 else 0 := by
  cases asked with
  | nothing => rfl
  | notOpened answer => rw [eq_of_openObject answer]; rfl
  | opened answer =>
      rw [opensAt_openPath (openPath_of_openObject answer)]
      simp only [Option.map_some, Option.some.injEq]
  | @written object position data verdict after answer =>
      have same : (Storage.writeAt object position data fs).2.opensAt id = fs.opensAt id :=
        opensAt_writeAt object position data id
      rw [answer] at same
      exact same
  | @removed path verdict after answer =>
      have same : (Storage.removePath path fs).2.opensAt id = fs.opensAt id :=
        opensAt_removePath path id
      rw [answer] at same
      exact same

theorem Effect.opensAt (effect : Effect s opened later) (id : NodeId) :
    later.storage.opensAt id =
      s.storage.opensAt id + if opened.map Object.node = some id then 1 else 0 := by
  obtain ⟨store, gone, asked, released, _, _⟩ := effect.storage
  rw [released, opensAt_releaseAll]
  exact opensAt_of_asked asked id

/-- A descriptor that is on a node after a step was on it before, or the step opened the
node. -/
theorem Effect.origin (effect : Effect s opened later) (held : later.HoldsNode id) :
    s.HoldsNode id ∨ opened.map Object.node = some id := by
  obtain ⟨object, held, rfl⟩ := held
  rcases effect.objects object held with before | here
  · exact .inl ⟨object, before, rfl⟩
  · exact .inr (congrArg (Option.map Object.node) here)

/-- A step releases a node at most once. If it does, no descriptor is on the node
afterwards, and one was on it before or the step opened it. -/
theorem Effect.releases (effect : Effect s opened later) (anchored : s.Anchored) (id : NodeId) :
    later.storage.releasesAt id = s.storage.releasesAt id ∨
      later.storage.releasesAt id = s.storage.releasesAt id + 1 ∧ ¬ later.HoldsNode id ∧
        (s.HoldsNode id ∨ opened.map Object.node = some id) := by
  have anchoredLater := effect.anchored anchored
  obtain ⟨store, gone, asked, released, origin, once⟩ := effect.storage
  have known := anchored.names_gone asked origin
  have counted : later.storage.releasesAt id =
      s.storage.releasesAt id + gone.countP fun object => object.node = id := by
    rw [released, releasesAt_releaseAll known, (keeps_of_asked asked).1.releases]
  rw [counted]
  rcases Nat.eq_zero_or_pos (gone.countP fun object => object.node = id) with none | some
  · exact .inl (by rw [none]; rfl)
  · obtain ⟨object, member, here⟩ := List.countP_pos_iff.mp some
    have here := of_decide_eq_true here
    obtain ⟨node, found, number, _⟩ := known object member
    -- All objects of the row have its inode number, and that is released at most once.
    have numbered : (gone.countP fun other => other.node = id) ≤
        gone.countP fun other => other.inode = object.inode := by
      apply List.countP_mono_left
      intro other there same
      obtain ⟨node', found', number', _⟩ := known other there
      rw [of_decide_eq_true same, ← here, found, Option.some.injEq] at found'
      exact decide_eq_true (by rw [← number', ← found', number])
    rw [once] at numbered
    split at numbered
    · rename_i gone
      refine .inr ⟨by omega, ?_, ?_⟩
      · intro held
        have grown : Extends store later.storage := by
          rw [released]
          exact extends_releaseAll _ store
        obtain ⟨node', found', number', _⟩ := grown object.node node found
        rw [here] at found'
        apply gone.2
        rw [← number, ← number']
        exact anchoredLater.refers_of_holdsNode held found'
      · exact (origin object member).imp (fun before => ⟨object, before, here⟩)
          fun opens => by rw [opens, Option.map_some, here]
    · omega

/-- A step keeps the counts of a node accounted for. -/
theorem Effect.accounted (effect : Effect s opened later) (anchored : s.Anchored)
    (before : s.Accounted id) : later.Accounted id := by
  obtain ⟨matched, held⟩ := before
  have opens := effect.opensAt id
  rcases effect.releases anchored id with same | ⟨more, gone, origin⟩
  · refine ⟨by omega, fun holds => ?_⟩
    rcases effect.origin holds with before | here
    · have := held before
      omega
    · rw [if_pos here] at opens
      omega
  · refine ⟨?_, fun holds => absurd holds gone⟩
    rcases origin with before | here
    · have := held before
      omega
    · rw [if_pos here] at opens
      omega

variable [ByteDevice κ]

/-- What releases, granted opens, writes through descriptors and removals keep of a tree,
every request keeps. -/
theorem kept_next (balanced : s.tables.Balanced) (request : Request) {P : FileTree → Prop}
    (before : P s.storage) (released : ∀ fs object, P fs → P (fs.release object))
    (opened : ∀ text flags permission object later,
      s.storage.openPath text flags permission = .ok (object, later) → P later)
    (written : ∀ object position data, s.HoldsNode object.node →
      P (s.storage.writeAt object position data).2)
    (removed : ∀ text, P (s.storage.removePath text).2) : P (s.next request).storage := by
  have releasedAll (gone : List Object) (fs : FileTree) (kept : P fs) : P (releaseAll gone fs) :=
    List.foldlRecOn gone _ kept fun fs kept object _ => released fs object kept
  have left := leaves_next balanced request
  generalize (s.next request).storage = store at left ⊢
  cases left with
  | released gone => exact releasedAll gone _ before
  | notOpened answer =>
      rw [eq_of_openObject answer]
      exact before
  | opened answer gone =>
      exact releasedAll gone _ (opened _ _ _ _ _ (openPath_of_openObject answer))
  | @written pid fd data group file verdict store slot shown writable positive answer told =>
      have kept := written file.object (file.start s.storage) data (holdsNode_of_slot slot shown)
      have answer : s.storage.writeAt file.object (file.start s.storage) data =
        (verdict, store) := answer
      rwa [answer] at kept
  | @removed path verdict store answer =>
      have kept := removed path
      have answer : s.storage.removePath path = (verdict, store) := answer
      rwa [answer] at kept

/-- A durable property of all nodes is kept, if writes through descriptors keep it. -/
theorem each_next (balanced : s.tables.Balanced) (request : Request) {P : Node → Prop}
    (durable : Node.Durable P) (each : s.storage.Each P)
    (written : ∀ object position data, s.HoldsNode object.node →
      (s.storage.writeAt object position data).2.Each P) : (s.next request).storage.Each P :=
  kept_next balanced request each (fun _ object each => each.release durable object)
    (fun _ _ _ _ _ opened => each.openPath durable opened) written (each.removePath durable)

/-- The states of a service over a tree whose objects are all opened through it. -/
inductive Sole : Service FileTree κ → Prop
  | built {capacities : Capacities} {console : κ} {allotment : Allotment} {s : Service FileTree κ}
      (changes : List Change)
      (built : build capacities (changes.foldl FileTree.after initial) console allotment = .ok s) :
      Sole s
  | next {s : Service FileTree κ} (sole : Sole s) (request : Request) : Sole (s.next request)
  | storage {s : Service FileTree κ} (sole : Sole s) (change : Change) :
      Sole (s.withStorage (s.storage.after change))
  | console {s : Service FileTree κ} (sole : Sole s) (console : κ) : Sole (s.withConsole console)
  | memory {s : Service FileTree κ} (sole : Sole s) (allotment : Allotment) (bytes : Nat) :
      Sole ((s.withAllotment allotment).withStorage (s.storage.withGranted bytes))

namespace Sole

theorem after (sole : Sole s) (history : List Request) : Sole (s.after history) := by
  induction history generalizing s with
  | nil => exact sole
  | cons request rest ih => exact ih (sole.next request)

theorem reachable (sole : Sole s) : Reachable Administered s := by
  induction sole with
  | built changes built => exact .built built
  | next sole request ih => exact ih.next request
  | storage sole change ih => exact ih.storage (.after change)
  | console sole console ih => exact ih.console console
  | memory sole allotment bytes ih => exact (ih.memory allotment).storage (.limited bytes)

theorem balanced (sole : Sole s) : s.tables.Balanced := sole.reachable.balanced

theorem effect (sole : Sole s) (request : Request) :
    Effect s (s.storageOpens request) (s.next request) := effect_next sole.balanced request

theorem accounted (sole : Sole s) (id : NodeId) : s.Accounted id := by
  induction sole with
  | @built capacities console allotment s changes built =>
      obtain ⟨_, system, journal, _, rfl⟩ := eq_of_build built
      refine ⟨Nat.le_trans (Nat.le_of_eq (releasesAt_administered changes id)) (Nat.zero_le _), ?_⟩
      rintro ⟨object, ⟨ref, member, _⟩, _⟩
      exact absurd member List.not_mem_nil
  | @next s sole request ih => exact (sole.effect request).accounted sole.reachable.anchored ih
  | @storage s sole change ih =>
      have opens : (s.storage.after change).opensAt id = s.storage.opensAt id :=
        opensAt_after change id
      have releases : (s.storage.after change).releasesAt id = s.storage.releasesAt id :=
        (keeps_after change).releases id
      have matched : (s.storage.after change).releasesAt id ≤ (s.storage.after change).opensAt id :=
        by rw [opens, releases]; exact ih.matched
      refine ⟨matched, fun holds => ?_⟩
      change (s.storage.after change).releasesAt id < (s.storage.after change).opensAt id
      rw [opens, releases]
      exact ih.held holds
  | console sole console ih => exact ⟨ih.matched, ih.held⟩
  | memory sole allotment bytes ih => exact ⟨ih.matched, ih.held⟩

/-- A node that a descriptor is on keeps its contents. -/
theorem not_spentAt_of_holdsNode (sole : Sole s) (held : s.HoldsNode id) :
    ¬ s.storage.SpentAt id :=
  fun spent => Nat.not_lt_of_le spent.opensAt_le ((sole.accounted id).held held)

theorem reached (sole : Sole s) : s.storage.Reached := by
  induction sole with
  | @built capacities console allotment s changes built =>
      obtain ⟨_, system, journal, _, rfl⟩ := eq_of_build built
      exact List.foldlRecOn changes FileTree.after Reached.initial fun _ reached change _ =>
        reached.changed change
  | @next s sole request ih =>
      refine kept_next sole.balanced request ih (fun _ object reached => reached.released object) ?_
        (fun object position data _ => ih.written object position data) ih.removed
      intro text flags permission object later granted
      have opened := ih.opened text flags permission
      rwa [openObject_eq, granted] at opened
  | storage sole change ih => exact ih.changed change
  | console sole console ih => exact ih
  | memory sole allotment bytes ih => exact ih.limited bytes

/-- Paths lead to nodes that are there, each to one of its own. -/
theorem linked (sole : Sole s) : s.storage.Linked := sole.reached.linked

theorem purged (sole : Sole s) : s.storage.Purged := by
  induction sole with
  | @built capacities console allotment s changes built =>
      obtain ⟨_, system, journal, _, rfl⟩ := eq_of_build built
      exact purged_administered changes
  | @next s sole request ih =>
      exact each_next sole.balanced request Node.durable_spent ih fun object position data held =>
        ih.writeAt (sole.not_spentAt_of_holdsNode held) position data
  | storage sole change ih => exact ih.after change
  | console sole console ih => exact ih
  | memory sole allotment bytes ih => exact ih

end Sole

end Service

end OpenFiles
