import OpenFiles.Proofs.FileTree.Releases

/-!
# Open objects and their nodes

A service over a file tree holds objects of nodes only: `Anchored` is kept by every
request and by whoever administers the tree. With it the effect of a request on the
storage can be read off the nodes. The node of an object that stays open is not
released, and the releases of an inode number are counted as `Effect` counts them,
if inode numbers tell nodes apart.
-/

namespace OpenFiles

namespace Service

open FileTree

variable {κ : Type} {s after : Service FileTree κ} {opened : Option Object} {object : Object}

/-- Every open object is one of a node of the tree. -/
def Anchored (s : Service FileTree κ) : Prop := ∀ object, s.Holds object → s.storage.Names object

/-- What a step may release is an object of a node. -/
theorem Anchored.names_gone {store : FileTree} {gone : List Object} (anchored : s.Anchored)
    (asked : Asked s.storage opened store)
    (origin : ∀ object ∈ gone, s.Holds object ∨ opened = some object) :
    ∀ object ∈ gone, store.Names object := by
  obtain ⟨kept, named⟩ := keeps_of_asked asked
  intro object member
  rcases origin object member with before | here
  · exact kept.grown.names (anchored object before)
  · exact named object here

/-- The effect of a request on a tree: its nodes are kept at first, and objects of
nodes are released then. -/
theorem Effect.nodes (effect : Effect s opened after) (anchored : s.Anchored) :
    ∃ store gone, Keeps s.storage store ∧ (∀ object ∈ opened, store.Names object) ∧
      (∀ object ∈ gone, store.Names object) ∧ after.storage = releaseAll gone store ∧
      ∀ inode, (gone.countP fun object => object.inode = inode) =
        if (s.Refers inode ∨ opened.map Object.inode = some inode) ∧ ¬ after.Refers inode
        then 1 else 0 := by
  obtain ⟨store, gone, asked, released, origin, once⟩ := effect.storage
  obtain ⟨kept, named⟩ := keeps_of_asked asked
  exact ⟨store, gone, kept, named, anchored.names_gone asked origin, released, once⟩

theorem Effect.extends (effect : Effect s opened after) : Extends s.storage after.storage := by
  obtain ⟨store, gone, asked, released, _, _⟩ := effect.storage
  rw [released]
  exact (keeps_of_asked asked).1.grown.trans (extends_releaseAll gone store)

theorem Effect.anchored (effect : Effect s opened after) (anchored : s.Anchored) :
    after.Anchored := by
  intro object held
  obtain ⟨store, gone, kept, named, _, released, _⟩ := effect.nodes anchored
  rw [released]
  apply (extends_releaseAll gone store).names
  rcases effect.objects object held with before | here
  · exact kept.grown.names (anchored object before)
  · exact named object here

/-- The node of an object that stays open is not released, whatever its number. -/
theorem Effect.releasesAt (effect : Effect s opened after) (anchored : s.Anchored)
    (held : s.Holds object) (stays : after.Refers object.inode) :
    after.storage.releasesAt object.node = s.storage.releasesAt object.node := by
  obtain ⟨store, gone, kept, _, known, released, once⟩ := effect.nodes anchored
  obtain ⟨node, found, number, _⟩ := kept.grown.names (anchored object held)
  have spared : (gone.countP fun other => other.node = object.node) = 0 := by
    rw [List.countP_eq_zero]
    intro other member same
    obtain ⟨node', found', number', _⟩ := known other member
    rw [of_decide_eq_true same, found, Option.some.injEq] at found'
    have none := once object.inode
    rw [if_neg fun both => both.2 stays, List.countP_eq_zero] at none
    exact none other member (decide_eq_true (by rw [← number', ← found', number]))
  rw [released, releasesAt_releaseAll known, spared, kept.releases]
  rfl

/-- What the releases of a step amount to, for one inode number. -/
theorem Effect.closes (effect : Effect s opened after) (anchored : s.Anchored)
    (apart : after.storage.Identifies) (inode : Inode) :
    after.storage.closes inode = s.storage.closes inode +
      if (s.Refers inode ∨ opened.map Object.inode = some inode) ∧ ¬ after.Refers inode
      then 1 else 0 := by
  obtain ⟨store, gone, kept, _, known, released, once⟩ := effect.nodes anchored
  rw [released] at apart ⊢
  rw [closes_releaseAll known apart, once,
    kept.closes ((extends_releaseAll gone store).identifies apart)]

variable [ByteDevice κ]

/-- Open objects are objects of nodes at all times. -/
theorem Reachable.anchored (reached : Reachable Administered s) : s.Anchored := by
  induction reached with
  | built built =>
      intro object held
      obtain ⟨system, tables, _⟩ := tables_of_build built
      rw [Holds, tables] at held
      obtain ⟨ref, member, _⟩ := held
      exact absurd member List.not_mem_nil
  | next reached request ih => exact (effect_next reached.balanced request).anchored ih
  | storage reached change ih =>
      intro object held
      exact change.keeps.grown.names (ih object held)
  | console reached console ih => exact ih
  | memory reached allotment ih => exact ih

theorem Reachable.names_of_file? {id : GroupId} {file : OpenFile}
    (reached : Reachable Administered s) (shown : s.tables.file? id = some file) :
    s.storage.Names file.object :=
  reached.anchored _ (holds_of_file? reached.balanced shown)

/-- Nodes stay in their rows over any history. -/
theorem Reachable.extends_after (reached : Reachable Administered s) (history : List Request) :
    Extends s.storage (s.after history).storage := by
  induction history generalizing s with
  | nil => exact .refl _
  | cons request rest ih =>
      exact (effect_next reached.balanced request).extends.trans (ih (reached.next request))

end Service

end OpenFiles
