import OpenFiles.Proofs.FileTree.Nodes
import OpenFiles.Proofs.Service.Effects

/-!
# Releases by inode number

The tree tells how often an inode number was released by asking the node that got
the number last. As long as inode numbers tell nodes apart, that is the one node
with the number, and the answer follows from what became of its row.

A release changes one node, so several of them may come in any order: `releaseAll_perm`.
-/

namespace OpenFiles

namespace FileTree

variable {fs later : FileTree} {id : NodeId} {node : Node} {inode : Inode} {object : Object}

/-- How often objects with an inode number were released. -/
def closes (fs : FileTree) (inode : Inode) : Nat :=
  (fs.summaryOfInode? inode.value).elim 0 NodeSummary.releases

theorem exists_row_of_mem (member : node ∈ fs.nodes) : ∃ id, fs.node? id = some node := by
  obtain ⟨index, small, here⟩ := List.getElem_of_mem member
  exact ⟨⟨index⟩, List.getElem?_eq_some_iff.mpr ⟨small, here⟩⟩

theorem nodeOfInode?_eq_some (found : fs.nodeOfInode? inode.value = some node) :
    node.inode = inode ∧ ∃ id, fs.node? id = some node := by
  have same := List.find?_some found
  have member := List.mem_reverse.mp (List.mem_of_find?_eq_some found)
  refine ⟨?_, exists_row_of_mem member⟩
  cases node with
  | mk number =>
      cases number
      cases inode
      simpa using same

/-- The number of a node leads to it, if numbers tell nodes apart. -/
theorem Identifies.nodeOfInode? (apart : fs.Identifies) (found : fs.node? id = some node) :
    fs.nodeOfInode? node.inode.value = some node := by
  cases asked : fs.nodeOfInode? node.inode.value with
  | none =>
      have absent := List.find?_eq_none.mp asked node
        (List.mem_reverse.mpr (List.mem_of_getElem? found))
      simp at absent
  | some node' =>
      obtain ⟨same, id', found'⟩ := nodeOfInode?_eq_some asked
      have here := apart id' id node' node found' found same
      subst here
      rw [found, Option.some.injEq] at found'
      rw [found']

theorem Identifies.closes (apart : fs.Identifies) (found : fs.node? id = some node) :
    fs.closes node.inode = fs.releasesAt id := by
  rw [FileTree.closes, summaryOfInode?, apart.nodeOfInode? found, releasesAt, found]
  rfl

theorem closes_eq_zero (absent : ∀ id node, fs.node? id = some node → node.inode ≠ inode) :
    fs.closes inode = 0 := by
  rw [FileTree.closes, summaryOfInode?]
  cases asked : fs.nodeOfInode? inode.value with
  | none => rfl
  | some node =>
      obtain ⟨same, id, found⟩ := nodeOfInode?_eq_some asked
      exact absurd same (absent id node found)

/-- What happens to the releases of the one row with an inode number happens to the
releases of the number. -/
theorem closes_of_row (grown : Extends fs later) (apart : later.Identifies) {count : Nat}
    (found : later.node? id = some node)
    (releases : later.releasesAt id = fs.releasesAt id + count) :
    later.closes node.inode = fs.closes node.inode + count := by
  rw [apart.closes found, releases]
  cases before : fs.node? id with
  | none =>
      have absent : ∀ id' node', fs.node? id' = some node' → node'.inode ≠ node.inode := by
        intro id' node' found' same
        obtain ⟨now, foundNow, kept, _⟩ := grown id' node' found'
        have here := apart id' id now node foundNow found (kept.trans same)
        subst here
        rw [before] at found'
        cases found'
      rw [closes_eq_zero absent, releasesAt, before]
      rfl
  | some node' =>
      obtain ⟨now, foundNow, kept, _⟩ := grown id node' before
      rw [found, Option.some.injEq] at foundNow
      subst foundNow
      rw [kept, (grown.identifies apart).closes before]

/-- A number that no node has now, no node had before. -/
theorem closes_of_absent (grown : Extends fs later)
    (absent : ∀ id node, later.node? id = some node → node.inode ≠ inode) :
    later.closes inode = fs.closes inode := by
  have before : ∀ id node, fs.node? id = some node → node.inode ≠ inode := by
    intro id node found same
    obtain ⟨now, foundNow, kept, _⟩ := grown id node found
    exact absent id now foundNow (kept.trans same)
  rw [closes_eq_zero absent, closes_eq_zero before]

theorem Keeps.closes (kept : Keeps fs later) (apart : later.Identifies) (inode : Inode) :
    later.closes inode = fs.closes inode := by
  by_cases known : ∃ id node, later.node? id = some node ∧ node.inode = inode
  · obtain ⟨id, node, found, rfl⟩ := known
    have row : later.releasesAt id = fs.releasesAt id + 0 := kept.releases id
    exact closes_of_row kept.grown apart found row
  · exact closes_of_absent kept.grown fun id node found same => known ⟨id, node, found, same⟩

theorem closes_release (named : fs.Names object) (apart : (fs.release object).Identifies)
    (inode : Inode) :
    (fs.release object).closes inode =
      fs.closes inode + if object.inode = inode then 1 else 0 := by
  have grown : Extends fs (fs.release object) := extends_release object
  obtain ⟨here, foundHere, sameHere, _⟩ := grown.names named
  by_cases known : ∃ id node, (fs.release object).node? id = some node ∧ node.inode = inode
  · obtain ⟨id, node, found, rfl⟩ := known
    have row : object.node = id ↔ object.inode = node.inode := by
      constructor
      · rintro rfl
        rw [foundHere, Option.some.injEq] at found
        rw [← found, sameHere]
      · intro same
        exact apart object.node id here node foundHere found (sameHere.trans same)
    have releases := releasesAt_release named id
    simp only [row] at releases
    exact closes_of_row grown apart found releases
  · have absent : ∀ id node, (fs.release object).node? id = some node → node.inode ≠ inode :=
      fun id node found same => known ⟨id, node, found, same⟩
    have elsewhere : object.inode ≠ inode := sameHere ▸ absent object.node here foundHere
    rw [closes_of_absent grown absent, if_neg elsewhere, Nat.add_zero]

theorem release_comm (fs : FileTree) (first second : Object) :
    (fs.release first).release second = (fs.release second).release first := by
  by_cases same : first.node = second.node
  · simp only [release, same]
  · have apart : first.node.index ≠ second.node.index := fun h => same (congrArg NodeId.mk h)
    simp only [release, adjust, List.modify_modify_ne _ _ fs.nodes apart]

/-- It does not matter in what order objects are released. -/
theorem releaseAll_perm {gone lost : List Object} (same : gone.Perm lost) (fs : FileTree) :
    releaseAll gone fs = releaseAll lost fs :=
  same.foldl_eq' (fun first _ second _ fs => release_comm fs first second) fs

theorem extends_releaseAll (gone : List Object) (fs : FileTree) :
    Extends fs (releaseAll gone fs) := by
  induction gone generalizing fs with
  | nil => exact .refl fs
  | cons object gone ih => exact (extends_release object).trans (ih (fs.release object))

/-- Releases are counted one by one. -/
theorem closes_releaseAll {gone : List Object} (named : ∀ object ∈ gone, fs.Names object)
    (apart : (releaseAll gone fs).Identifies) (inode : Inode) :
    (releaseAll gone fs).closes inode =
      fs.closes inode + gone.countP fun object => object.inode = inode := by
  induction gone generalizing fs with
  | nil => rfl
  | cons object gone ih =>
      have grown : Extends fs (fs.release object) := extends_release object
      have later : ∀ other ∈ gone, (fs.release object).Names other :=
        fun other member => grown.names (named other (List.mem_cons_of_mem _ member))
      have first := closes_release (named object List.mem_cons_self)
        ((extends_releaseAll gone (fs.release object)).identifies apart) inode
      have rest := ih later apart
      refine rest.trans ?_
      rw [first, List.countP_cons]
      simp only [decide_eq_true_eq]
      omega

theorem releasesAt_releaseAll {gone : List Object} (named : ∀ object ∈ gone, fs.Names object)
    (id : NodeId) :
    (releaseAll gone fs).releasesAt id =
      fs.releasesAt id + gone.countP fun object => object.node = id := by
  induction gone generalizing fs with
  | nil => rfl
  | cons object gone ih =>
      have grown : Extends fs (fs.release object) := extends_release object
      have later : ∀ other ∈ gone, (fs.release object).Names other :=
        fun other member => grown.names (named other (List.mem_cons_of_mem _ member))
      refine (ih later).trans ?_
      rw [releasesAt_release (named object List.mem_cons_self), List.countP_cons]
      simp only [decide_eq_true_eq]
      omega

/-- A question that a request puts to the tree keeps its nodes, and what it opens is
one of them. -/
theorem keeps_of_asked {opened : Option Object} (asked : Asked fs opened later) :
    Keeps fs later ∧ ∀ object ∈ opened, later.Names object := by
  cases asked with
  | nothing => exact ⟨.refl fs, fun _ absent => by cases absent⟩
  | notOpened answer =>
      have same := eq_of_openObject answer
      subst same
      exact ⟨.refl later, fun _ absent => by cases absent⟩
  | opened answer =>
      obtain ⟨kept, named⟩ := keeps_openPath (openPath_of_openObject answer)
      refine ⟨kept, ?_⟩
      intro object here
      cases here
      exact named
  | @written object position data verdict after answer =>
      have kept : Keeps fs (Storage.writeAt object position data fs).2 :=
        keeps_writeAt object position data
      rw [answer] at kept
      exact ⟨kept, fun _ absent => by cases absent⟩
  | @removed path verdict after answer =>
      have kept : Keeps fs (Storage.removePath path fs).2 := keeps_removePath path
      rw [answer] at kept
      exact ⟨kept, fun _ absent => by cases absent⟩

/-- What may be done to a tree from outside: requests of whoever administers it, and a change
of what memory grants. -/
inductive Administered (fs : FileTree) : FileTree → Prop
  | after (request : Change) : Administered fs (fs.after request)
  | limited (bytes : Nat) : Administered fs (fs.withGranted bytes)

theorem keeps_withGranted (bytes : Nat) : Keeps fs (fs.withGranted bytes) :=
  ⟨fun _ node found => ⟨node, found, rfl, rfl⟩, fun _ => rfl⟩

theorem Administered.keeps {later : FileTree} (administered : Administered fs later) :
    Keeps fs later := by
  cases administered with
  | after request => exact keeps_after request
  | limited bytes => exact keeps_withGranted bytes

end FileTree

end OpenFiles
