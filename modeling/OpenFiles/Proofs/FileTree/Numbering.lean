import Mathlib.Algebra.Ring.Nat
import OpenFiles.Proofs.FileTree.Numbers
import OpenFiles.Proofs.FileTree.Shape
import OpenFiles.Proofs.Tables.Entries

/-!
# The order of inode numbers

Rows get the inode numbers in turn, from 1 to the last 32-bit word and then from 1 again:
`Reached.numbered`. So a number names one node for as long as there are no more nodes than
numbers, and no longer. `Identified` collects what depends on it: whether objects of
different nodes count as the same, whether opens of different files share a row of the system
table, and which node is reported for a number.
-/

namespace OpenFiles

namespace FileTree

variable {fs later : FileTree} {id : NodeId} {node : Node} {first second object : Object}

/-- How many inode numbers there are: all 32-bit words but 0. -/
def numberCount : Nat := 2 ^ 32 - 1

def numberOf (index : Nat) : Nat := index % numberCount + 1

/-- The nodes have the numbers of their rows, and the next row gets its own. -/
structure Numbered (fs : FileTree) : Prop where
  rows : ∀ id node, fs.node? id = some node → node.inode.value.toNat = numberOf id.index
  next : (takeInode fs.inodeCounter).1.value.toNat = numberOf fs.nodes.length

theorem numberOf_succ (index : Nat) :
    numberOf (index + 1) = if numberOf index = numberCount then 1 else numberOf index + 1 := by
  unfold numberOf numberCount
  split <;> omega

/-- Different rows get different numbers as long as there are numbers. -/
theorem numberOf_inj_of_lt {index index' : Nat} (small : index < numberCount)
    (small' : index' < numberCount) : numberOf index = numberOf index' ↔ index = index' := by
  unfold numberOf
  rw [Nat.mod_eq_of_lt small, Nat.mod_eq_of_lt small', Nat.add_right_cancel_iff]

theorem Inode.toNat_inj {first second : Inode} :
    first.value.toNat = second.value.toNat ↔ first = second := by
  constructor
  · intro same
    cases first
    cases second
    simpa using UInt32.toNat.inj same
  · exact fun same => same ▸ rfl

theorem takeInode_snd (counter : UInt32) :
    (takeInode counter).2 = (takeInode counter).1.value + 1 := by
  unfold takeInode
  split
  · rfl
  · rfl

/-- After the last number comes the first. -/
theorem takeInode_value_add_one (inode : Inode) :
    (takeInode (inode.value + 1)).1.value.toNat =
      if inode.value.toNat = numberCount then 1 else inode.value.toNat + 1 := by
  have sum : (inode.value + 1).toNat = (inode.value.toNat + 1) % 2 ^ 32 := UInt32.toNat_add _ _
  have small : inode.value.toNat < 2 ^ 32 := UInt32.toNat_lt _
  unfold takeInode numberCount
  split
  · rename_i nonzero
    have positive : (inode.value + 1).toNat ≠ 0 := fun zero => nonzero (UInt32.toNat.inj zero)
    rw [if_neg (by omega)]
    change (inode.value + 1).toNat = _
    omega
  · rename_i zero
    have zero : (inode.value + 1).toNat = 0 := by rw [not_not.mp zero]; rfl
    rw [if_pos (by omega)]
    rfl

theorem length_addNode (kind : FileKind) (permission : UInt32) :
    (fs.addNode kind permission).2.nodes.length = fs.nodes.length + 1 :=
  List.length_append

/-- A new node gets the number of its row. -/
theorem Numbered.addNode (numbered : fs.Numbered) (kind : FileKind) (permission : UInt32) :
    (fs.addNode kind permission).2.Numbered where
  rows id node found := by
    rw [node?_addNode] at found
    split at found
    · rename_i here
      cases found
      rw [← here]
      exact numbered.next
    · exact numbered.rows id node found
  next := by
    have counter :
        (fs.addNode kind permission).2.inodeCounter = (takeInode fs.inodeCounter).2 := rfl
    rw [counter, takeInode_snd, takeInode_value_add_one, length_addNode, numberOf_succ,
      numbered.next]

/-- Changes that keep the numbers of nodes keep them in order. -/
theorem Numbered.adjust {f : Node → Node} (numbered : fs.Numbered)
    (kept : ∀ node, fs.node? id = some node → (f node).inode = node.inode) :
    (fs.adjust id f).Numbered where
  rows other node found := by
    rw [node?_adjust] at found
    split at found
    · rename_i here
      subst here
      obtain ⟨before, there, rfl⟩ := Option.map_eq_some_iff.mp found
      rw [kept before there]
      exact numbered.rows id before there
    · exact numbered.rows other node found
  next := by
    have length : (fs.adjust id f).nodes.length = fs.nodes.length := List.length_modify _ _ _
    rw [length]
    exact numbered.next

/-- Every step keeps the numbers in order. -/
theorem Numbered.step (numbered : fs.Numbered) (step : Step fs later) : later.Numbered := by
  cases step with
  | @created path kind permission id later created named =>
      have grown := numbered.addNode kind permission
      rw [created.grown]
      exact ⟨grown.rows, grown.next⟩
  | adjusted id f kept => exact numbered.adjust fun node found => (kept node found).1
  | moved directory named => exact ⟨numbered.rows, numbered.next⟩
  | unlinked removed =>
      obtain ⟨path, id, _, _, rfl⟩ := removed_of_unlink removed
      have taken : Numbered { fs with tree := fs.tree.erase path } := ⟨numbered.rows, numbered.next⟩
      exact taken.adjust fun _ _ => Node.inode_purge
  | limited bytes => exact ⟨numbered.rows, numbered.next⟩

theorem numbered_bare : bare.Numbered where
  rows id node found := by
    obtain ⟨index⟩ := id
    cases index with
    | zero =>
        cases found
        rfl
    | succ index => cases found
  next := rfl

theorem Reached.numbered (reached : fs.Reached) : fs.Numbered :=
  reached.induction (fun _ _ step numbered => numbered.step step) numbered_bare

/-- The number of an object is that of the row of its node. -/
theorem Numbered.number (numbered : fs.Numbered) (named : fs.Names object) :
    object.inode.value.toNat = numberOf object.node.index := by
  obtain ⟨node, found, inode, _⟩ := named
  rw [← inode]
  exact numbered.rows object.node node found

/-- Objects count as the same exactly when the rows of their nodes have the same number. -/
theorem Numbered.same_iff (numbered : fs.Numbered) (named : fs.Names first)
    (named' : fs.Names second) :
    first.same second = true ↔ numberOf first.node.index = numberOf second.node.index := by
  rw [Object.same_iff, ← Inode.toNat_inj, numbered.number named, numbered.number named']

/-- Numbers tell nodes apart exactly as long as there are no more nodes than numbers. -/
theorem Numbered.identifies_iff (numbered : fs.Numbered) :
    fs.Identifies ↔ fs.nodes.length ≤ numberCount := by
  constructor
  · intro apart
    by_contra many
    have first : 0 < fs.nodes.length := by omega
    have again : numberCount < fs.nodes.length := by omega
    have found : fs.node? ⟨0⟩ = some fs.nodes[0] := List.getElem?_eq_getElem first
    have found' : fs.node? ⟨numberCount⟩ = some fs.nodes[numberCount] :=
      List.getElem?_eq_getElem again
    have same : fs.nodes[0].inode = fs.nodes[numberCount].inode := by
      rw [← Inode.toNat_inj, numbered.rows _ _ found, numbered.rows _ _ found', numberOf, numberOf,
        Nat.mod_self, Nat.zero_mod]
    have rows := apart _ _ _ _ found found' same
    cases rows
  · intro few id id' node node' found found' same
    have small : id.index < fs.nodes.length := (List.getElem?_eq_some_iff.mp found).1
    have small' : id'.index < fs.nodes.length := (List.getElem?_eq_some_iff.mp found').1
    rw [← Inode.toNat_inj, numbered.rows id node found, numbered.rows id' node' found',
      numberOf_inj_of_lt (Nat.lt_of_lt_of_le small few) (Nat.lt_of_lt_of_le small' few)] at same
    cases id
    cases id'
    exact congrArg NodeId.mk same

/-- The last row with a number. -/
def LastWith (fs : FileTree) (value : UInt32) (id : NodeId) : Prop :=
  ∀ other node, fs.node? other = some node → node.inode.value = value → other.index ≤ id.index

theorem lastWith_of_nodeOfInode? {value : UInt32} (asked : fs.nodeOfInode? value = some node) :
    ∃ id, fs.node? id = some node ∧ node.inode.value = value ∧ fs.LastWith value id := by
  rw [nodeOfInode?, List.find?_eq_some_iff_append, decide_eq_true_iff] at asked
  obtain ⟨number, after, before, listed, passed⟩ := asked
  have whole : fs.nodes = before.reverse ++ node :: after.reverse := by
    rw [← List.reverse_reverse fs.nodes, listed, List.reverse_append, List.reverse_cons,
      List.append_assoc, List.singleton_append]
  refine ⟨⟨before.reverse.length⟩, ?_, number, ?_⟩
  · rw [node?, whole, List.getElem?_append_right (Nat.le_refl _), Nat.sub_self]
    rfl
  · rintro ⟨index⟩ other found number'
    by_contra beyond
    have beyond : before.reverse.length < index := Nat.lt_of_not_le beyond
    -- A node in a later row was passed on the way to the one that was found.
    obtain ⟨gap, rfl⟩ : ∃ gap, index = before.reverse.length + (gap + 1) :=
      ⟨index - before.reverse.length - 1, by omega⟩
    rw [node?, whole, List.getElem?_append_right (Nat.le_add_right _ _), Nat.add_sub_cancel_left,
      List.getElem?_cons_succ] at found
    have seen := passed other (List.mem_reverse.mp (List.mem_of_getElem? found))
    simp [number'] at seen

/-- The node that is reported for a number is the last one that got it. -/
theorem nodeOfInode?_eq_some_iff {value : UInt32} :
    fs.nodeOfInode? value = some node ↔
      ∃ id, fs.node? id = some node ∧ node.inode.value = value ∧ fs.LastWith value id := by
  refine ⟨lastWith_of_nodeOfInode?, ?_⟩
  rintro ⟨id, found, number, last⟩
  cases asked : fs.nodeOfInode? value with
  | none =>
      have absent := List.find?_eq_none.mp asked node
        (List.mem_reverse.mpr (List.mem_of_getElem? found))
      simp [number] at absent
  | some node' =>
      obtain ⟨id', found', number', last'⟩ := lastWith_of_nodeOfInode? asked
      have rows : id = id' := by
        have upper := last id' node' found' number'
        have lower := last' id node found number
        cases id
        cases id'
        exact congrArg NodeId.mk (Nat.le_antisymm lower upper)
      rw [← found', ← rows, found]

/-- Numbers identify nodes wherever they are used: as the mark of a node, to compare objects,
to find the row of an object in the system table, and to ask about a node. -/
structure Identified (fs : FileTree) : Prop where
  numbers : fs.Identifies
  objects : ∀ first second, fs.Names first → fs.Names second →
    (first.same second = true ↔ first.node = second.node)
  entries : ∀ (table after : OpenTable) object row,
    (∀ other held, table.object? other = some held → fs.Names held) → fs.Names object →
    table.acquire object = .ok (row, after) →
    ∃ held, after.object? row = some held ∧ held.node = object.node
  reports : ∀ id node, fs.node? id = some node →
    fs.summaryOfInode? node.inode.value = some node.summary

/-- All that numbers are used for goes back to whether they tell nodes apart. -/
theorem identified_iff : fs.Identified ↔ fs.Identifies := by
  refine ⟨Identified.numbers, ?_⟩
  intro apart
  have objects (first second : Object) (named : fs.Names first) (named' : fs.Names second) :
      first.same second = true ↔ first.node = second.node := by
    rw [Object.same_iff]
    constructor
    · exact fun same => congrArg Object.node (apart.eq_of_names named named' same)
    · intro same
      obtain ⟨node, found, number, _⟩ := named
      obtain ⟨node', found', number', _⟩ := named'
      rw [same, found', Option.some.injEq] at found
      rw [← number, ← number', found]
  refine ⟨apart, objects, ?_, ?_⟩
  · intro table after object row held named acquired
    obtain ⟨there, shown, number, here⟩ :=
      (OpenTable.acquired_of_acquire acquired).object?
    refine ⟨there, shown, ?_⟩
    rcases here with ⟨_, same⟩ | before
    · rw [same]
    · exact (objects there object (held row there before) named).mp (Object.same_iff.mpr number)
  · intro id node found
    rw [summaryOfInode?, apart.nodeOfInode? found]
    rfl

/-- Numbers identify nodes exactly until as many nodes were created as there are 32-bit words.
Always, the node in a row has the number of the row, objects count as the same when the
numbers of their rows agree, and a number is answered for by the last node that got it. -/
theorem identified_until_wraparound (reached : fs.Reached) :
    (fs.Identified ↔ fs.nodes.length < 2 ^ 32) ∧
      (∀ id node, fs.node? id = some node →
        node.inode.value.toNat = id.index % (2 ^ 32 - 1) + 1) ∧
      (∀ first second, fs.Names first → fs.Names second → (first.same second = true ↔
        first.node.index % (2 ^ 32 - 1) = second.node.index % (2 ^ 32 - 1))) ∧
      ∀ value summary, fs.summaryOfInode? value = some summary ↔
        ∃ id node, fs.node? id = some node ∧ node.inode.value = value ∧ fs.LastWith value id ∧
          node.summary = summary := by
  have numbered : fs.Numbered := reached.numbered
  refine ⟨?_, numbered.rows, ?_, ?_⟩
  · rw [identified_iff, numbered.identifies_iff, numberCount]
    omega
  · intro first second named named'
    rw [numbered.same_iff named named', numberOf, numberOf, Nat.add_right_cancel_iff, numberCount]
  · intro value summary
    rw [summaryOfInode?, Option.map_eq_some_iff]
    constructor
    · rintro ⟨node, asked, same⟩
      obtain ⟨id, found, number, last⟩ := nodeOfInode?_eq_some_iff.mp asked
      exact ⟨id, node, found, number, last, same⟩
    · rintro ⟨id, node, found, number, last, same⟩
      exact ⟨node, nodeOfInode?_eq_some_iff.mpr ⟨id, found, number, last⟩, same⟩

/-- A file that is created again is another node with another number. -/
theorem identified_after_recreation :
    let fs := [.createFile "/f" [], .unlink "/f", .createFile "/f" []].foldl FileTree.after initial
    fs.Identified := by
  intro fs
  have reached : fs.Reached := Reached.initial.foldl_after _
  exact (identified_until_wraparound reached).1.mpr (by decide)

/-! ### Coming round -/

/-- Creates a file and removes it again, so many times. -/
def recreations : Nat → List Change
  | 0 => []
  | count + 1 => .createFile "/f" [] :: .unlink "/f" :: recreations count

def recreatedPath : Path := ⟨["f"]⟩

theorem after_of_change {request : Change} (granted : fs.change request = .ok later) :
    fs.after request = later := by
  rw [after_eq, granted]

/-- A file that can be created is created with its contents. -/
theorem Created.change_createFile {path : Path} {text : String} {grown : FileTree}
    (created : Created fs path .regular filePermission id grown) (named : fs.pathOf text = .ok path)
    (data : Bytes) :
    fs.change (.createFile text data) = .ok (grown.adjust id (·.withData data)) := by
  have made : fs.create text .regular filePermission = .ok (id, grown) := by
    rw [create_eq, named]
    exact created.createAt_eq
  rw [FileTree.change_createFile, made]
  rfl

/-- Creating the file adds a row for it. -/
theorem exists_change_createFile (reached : fs.Reached) (vacant : recreatedPath ∉ fs.tree) :
    ∃ later, fs.change (.createFile "/f" []) = .ok later ∧
      later.nodes.length = fs.nodes.length + 1 ∧
      later.tree = fs.tree.insert recreatedPath ⟨fs.nodes.length⟩ ∧
      later.kindOf ⟨fs.nodes.length⟩ = some .regular := by
  obtain ⟨grown, created⟩ := exists_created vacant reached.shaped.top .regular filePermission
  have named : fs.pathOf "/f" = .ok recreatedPath := rfl
  refine ⟨_, created.change_createFile named [], ?_⟩
  rw [created.grown]
  refine ⟨?_, rfl, ?_⟩
  · rw [← length_addNode .regular filePermission]
    exact List.length_modify _ _ _
  · have here : (fs.addNode .regular filePermission).2.node? ⟨fs.nodes.length⟩ = some _ :=
      (node?_addNode .regular filePermission _).trans (if_pos rfl)
    rw [kindOf, node?_adjust, if_pos rfl, node?]
    rw [node?] at here
    rw [here]
    rfl

/-- Removing the file leaves its row. -/
theorem exists_change_unlink {made : FileTree} (vacant : recreatedPath ∉ fs.tree)
    (tree : made.tree = fs.tree.insert recreatedPath id) (kind : made.kindOf id = some .regular) :
    ∃ later, made.change (.unlink "/f") = .ok later ∧
      later.nodes.length = made.nodes.length ∧ later.tree = fs.tree := by
  have named : made.pathOf "/f" = .ok recreatedPath := rfl
  have below : recreatedPath ≠ Path.root := by decide
  have leads : made.tree.get? recreatedPath = some id := by
    rw [tree, OrderedMap.get?_insert_self]
  have bare : ¬ (made.kindOf id = some .directory ∧
      made.tree.keys.any (·.isBelow recreatedPath) = true) := by
    rintro ⟨directory, _⟩
    rw [kind] at directory
    cases directory
  refine ⟨_, unlink_eq_ok_iff.mpr ⟨recreatedPath, id, named, below, leads, bare, rfl⟩, ?_, ?_⟩
  · exact List.length_modify _ _ _
  · rw [tree_adjust, tree, OrderedMap.erase_insert vacant]

/-- Every recreation takes a row, and leaves the paths as they were. -/
theorem foldl_after_recreations (reached : fs.Reached) (vacant : recreatedPath ∉ fs.tree)
    (count : Nat) :
    ((recreations count).foldl after fs).nodes.length = fs.nodes.length + count ∧
      ((recreations count).foldl after fs).tree = fs.tree := by
  induction count generalizing fs with
  | zero => exact ⟨rfl, rfl⟩
  | succ count ih =>
      obtain ⟨made, granted, length, tree, kind⟩ := exists_change_createFile reached vacant
      obtain ⟨gone, granted', length', tree'⟩ := exists_change_unlink vacant tree kind
      have reached' : gone.Reached := by
        rw [← after_of_change granted', ← after_of_change granted]
        exact (reached.changed _).changed _
      rw [recreations, List.foldl_cons, List.foldl_cons, after_of_change granted,
        after_of_change granted']
      obtain ⟨total, same⟩ := ih reached' (tree' ▸ vacant)
      rw [total, same, length', length]
      exact ⟨by omega, tree'⟩

/-- The tree in which the file was recreated so many times and is there once more. -/
def recreated (count : Nat) : FileTree :=
  (recreations count ++ [Change.createFile "/f" []]).foldl FileTree.after initial

theorem reached_recreated (count : Nat) : (recreated count).Reached :=
  Reached.initial.foldl_after _

/-- The root is where it was, and the file has the last row. -/
theorem tree_recreated (count : Nat) :
    (recreated count).tree = initial.tree.insert recreatedPath ⟨count + 4⟩ ∧
      (recreated count).nodes.length = count + 5 ∧
      (recreated count).kindOf ⟨count + 4⟩ = some .regular := by
  have vacant : recreatedPath ∉ initial.tree := by decide
  obtain ⟨length, tree⟩ := foldl_after_recreations .initial vacant count
  have before : ((recreations count).foldl FileTree.after initial).Reached :=
    Reached.initial.foldl_after _
  obtain ⟨later, granted, length', tree', kind⟩ :=
    exists_change_createFile before (tree ▸ vacant)
  have last : recreated count = later := by
    rw [← after_of_change granted, recreated, List.foldl_append]
    rfl
  have four : initial.nodes.length = 4 := rfl
  rw [length, four, Nat.add_comm 4] at length' tree' kind
  rw [tree] at tree'
  rw [last]
  exact ⟨tree', length', kind⟩

/-- When the row of the file is a multiple of all numbers away from that of the root, the file
has the number of the root. -/
theorem number_recreated {count : Nat} (round : count + 4 = numberCount) :
    let top : Object := ⟨.first, .directory, ⟨0⟩⟩
    let file : Object := ⟨.first, .regular, ⟨count + 4⟩⟩
    (recreated count).Names top ∧ (recreated count).Names file ∧
      ∃ summary, (recreated count).summaryOfInode? 1 = some summary ∧ summary.kind = .regular := by
  obtain ⟨tree, length, kind⟩ := tree_recreated count
  obtain ⟨node, found, regular⟩ := Option.map_eq_some_iff.mp kind
  have number : node.inode = .first := by
    rw [← Inode.toNat_inj, (reached_recreated count).numbered.rows _ node found, round, numberOf,
      Nat.mod_self]
    rfl
  have last : (recreated count).LastWith 1 ⟨count + 4⟩ := by
    intro other node' found' _
    have small := (List.getElem?_eq_some_iff.mp found').1
    rw [length] at small
    exact Nat.le_of_lt_succ small
  have value : node.inode.value = 1 := by
    rw [number]
    rfl
  have grown : Extends initial (recreated count) := (keeps_foldl_after initial _).grown
  refine ⟨?_, ⟨node, found, number, regular⟩, node.summary, ?_, regular⟩
  · exact grown ⟨0⟩ (Node.fresh .first .directory directoryPermission) rfl
  · rw [summaryOfInode?, nodeOfInode?_eq_some_iff.mpr ⟨_, found, value, last⟩]
    rfl

/-- After as many creations as there are numbers, a new file gets the number of the root, which
is still there. The two count as one object, share a row of the system table, and what is
reported for the number is the file. -/
theorem number_of_root_given_again :
    let fs := recreated 4294967291
    let top : Object := ⟨.first, .directory, ⟨0⟩⟩
    let file : Object := ⟨.first, .regular, ⟨4294967295⟩⟩
    fs.Reached ∧ fs.tree.get? Path.root = some top.node ∧
      fs.tree.get? recreatedPath = some file.node ∧ fs.Names top ∧ fs.Names file ∧
      top.node ≠ file.node ∧ top.same file = true ∧
      (∃ once twice, OpenTable.acquire ⟨[none, none]⟩ top = .ok (⟨0⟩, once) ∧
        once.acquire file = .ok (⟨0⟩, twice)) ∧
      ∃ summary, fs.summaryOfInode? 1 = some summary ∧ summary.kind = .regular := by
  have round : 4294967291 + 4 = numberCount := rfl
  have top : initial.tree.get? Path.root = some ⟨0⟩ := by decide
  have apart : recreatedPath ≠ Path.root := by decide
  obtain ⟨tree, _, _⟩ := tree_recreated 4294967291
  obtain ⟨named, named', reported⟩ := number_recreated round
  have rows : (⟨0⟩ : NodeId) ≠ ⟨4294967295⟩ := by
    intro same
    cases same
  refine ⟨reached_recreated _, ?_, ?_, named, named', rows, rfl, ⟨_, _, rfl, rfl⟩, reported⟩
  · rw [tree, OrderedMap.get?_insert_of_ne _ apart, top]
  · rw [tree, OrderedMap.get?_insert_self]

end FileTree

end OpenFiles
