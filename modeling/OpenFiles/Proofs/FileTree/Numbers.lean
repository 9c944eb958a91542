import OpenFiles.Proofs.FileTree.Contents
import OpenFiles.Proofs.FileTree.Releases

/-!
# Inode numbers and the rows they stand for

The tree is asked about an inode number for its contents, its opens and whether its path
is gone. As long as numbers tell nodes apart, a number stands for one row, now and in
all trees that the present one has come from: `Identifies.exists_row`. What is known of
rows is then known of numbers.
-/

namespace OpenFiles

namespace FileTree

variable {fs later : FileTree} {id : NodeId} {inode : Inode}

def contentsOf (fs : FileTree) (inode : Inode) : Bytes :=
  (fs.nodeOfInode? inode.value).elim [] Node.data

def openings (fs : FileTree) (inode : Inode) : Nat :=
  (fs.summaryOfInode? inode.value).elim 0 NodeSummary.opens

def Unlinked (fs : FileTree) (inode : Inode) : Prop :=
  ∃ node, fs.nodeOfInode? inode.value = some node ∧ node.removed = true

/-- A row stands for an inode number in a tree: the number leads to its node, and the
objects with the number are those of the row. -/
structure StandsFor (fs : FileTree) (id : NodeId) (inode : Inode) : Prop where
  leads : fs.nodeOfInode? inode.value = fs.node? id
  objects : ∀ object, fs.Names object → (object.inode = inode ↔ object.node = id)

/-- While numbers tell nodes apart, each stands for one row, and has done so all along. -/
theorem Identifies.exists_row (apart : later.Identifies) (inode : Inode) :
    ∃ id, ∀ fs, Extends fs later → StandsFor fs id inode := by
  by_cases known : ∃ id node, later.node? id = some node ∧ node.inode = inode
  · obtain ⟨id, node, found, rfl⟩ := known
    refine ⟨id, fun fs grown => ?_⟩
    have rows (id' : NodeId) (node' : Node) (found' : fs.node? id' = some node') :
        node'.inode = node.inode ↔ id' = id := by
      obtain ⟨now, there, kept, _⟩ := grown id' node' found'
      constructor
      · intro same
        exact apart id' id now node there found (kept.trans same)
      · rintro rfl
        rw [found, Option.some.injEq] at there
        rw [there, kept]
    constructor
    · cases here : fs.node? id with
      | some node' =>
          rw [← (rows id node' here).mpr rfl]
          exact (grown.identifies apart).nodeOfInode? here
      | none =>
          cases asked : fs.nodeOfInode? node.inode.value with
          | none => rfl
          | some node' =>
              obtain ⟨same, id', found'⟩ := nodeOfInode?_eq_some asked
              rw [(rows id' node' found').mp same, here] at found'
              cases found'
    · rintro object ⟨node', found', number, _⟩
      rw [← number]
      exact rows object.node node' found'
  · -- A number that no node has stands for the first free row.
    refine ⟨⟨later.nodes.length⟩, fun fs grown => ?_⟩
    have absent (id : NodeId) (node : Node) (found : fs.node? id = some node) :
        node.inode ≠ inode ∧ id ≠ ⟨later.nodes.length⟩ := by
      obtain ⟨now, there, kept, _⟩ := grown id node found
      refine ⟨fun same => known ⟨id, now, there, kept.trans same⟩, ?_⟩
      rintro rfl
      rw [node?, List.getElem?_eq_none (Nat.le_refl _)] at there
      cases there
    constructor
    · cases here : fs.node? ⟨later.nodes.length⟩ with
      | some node => exact absurd rfl (absent _ node here).2
      | none =>
          cases asked : fs.nodeOfInode? inode.value with
          | none => rfl
          | some node =>
              obtain ⟨same, id, found⟩ := nodeOfInode?_eq_some asked
              exact absurd same (absent id node found).1
    · rintro object ⟨node, found, number, _⟩
      have both := absent object.node node found
      exact ⟨fun same => absurd (number.trans same) both.1, fun same => absurd same both.2⟩

namespace StandsFor

theorem contentsOf (stands : fs.StandsFor id inode) : fs.contentsOf inode = fs.dataAt id := by
  rw [FileTree.contentsOf, stands.leads, dataAt]

theorem openings (stands : fs.StandsFor id inode) : fs.openings inode = fs.opensAt id := by
  rw [FileTree.openings, summaryOfInode?, stands.leads, opensAt]
  cases fs.node? id <;> rfl

theorem closes (stands : fs.StandsFor id inode) : fs.closes inode = fs.releasesAt id := by
  rw [FileTree.closes, summaryOfInode?, stands.leads, releasesAt]
  cases fs.node? id <;> rfl

theorem unlinked_iff (stands : fs.StandsFor id inode) :
    fs.Unlinked inode ↔ fs.RemovedAt id := by
  rw [Unlinked, stands.leads, RemovedAt]

end StandsFor

end FileTree

end OpenFiles
