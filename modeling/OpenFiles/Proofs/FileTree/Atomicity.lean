import OpenFiles.Proofs.FileTree.Contents
import OpenFiles.Proofs.FileTree.WorkingDirectory

/-!
# Requests happen as a whole or not at all

What a request to a tree needs and what it leaves behind is said here without the order in
which the code checks and acts: `Fulfilled` for whoever administers the tree, `Opening` for
opens. A tree meets at most one of the descriptions, and a request that is refused is one
whose description no tree meets.

The steps of an open are made by different functions one after the other, and some have an
effect before the last check is made. `requests_all_or_nothing` says that no check that comes
behind an effect ever fails: a tree that an open has changed is one that it goes on to open.
-/

namespace OpenFiles

namespace FileTree

variable {fs middle later other : FileTree} {id : NodeId} {path : Path} {text : String}
variable {kind : FileKind} {permission : UInt32} {node next : Node} {flags : OpenFlags}
variable {mode : OpenMode} {tree : OrderedMap Path NodeId} {counter : UInt32}

/-- The tree with other paths, another node in one row and another counter. All other nodes,
the working directory and what memory grants are as they were. -/
structure Altered (fs : FileTree) (tree : OrderedMap Path NodeId) (id : NodeId) (node : Node)
    (counter : UInt32) (later : FileTree) : Prop where
  tree : later.tree = tree
  rows : ∀ row, later.node? row = if id = row then some node else fs.node? row
  directory : later.directory = fs.directory
  counter : later.inodeCounter = counter
  granted : later.granted = fs.granted

/-- A path that led nowhere, under a directory, leads to a node in the next row, which has the
next number. -/
structure Grown (fs : FileTree) (path : Path) (node : Node) (later : FileTree) : Prop where
  vacant : path ∉ fs.tree
  above : fs.kindAt? path.parent = some .directory
  number : node.inode = (takeInode fs.inodeCounter).1
  altered : Altered fs (fs.tree.insert path ⟨fs.nodes.length⟩) ⟨fs.nodes.length⟩ node
    (takeInode fs.inodeCounter).2 later

/-- A path with nothing below it leads nowhere any more, and the node it led to is told. -/
structure Shrunk (fs : FileTree) (path : Path) (later : FileTree) : Prop where
  below : path ≠ Path.root
  bare : fs.kindAt? path = some .directory → ∀ entry ∈ fs.tree, entry.isBelow path = false
  altered : ∃ id node, fs.tree.get? path = some id ∧ fs.node? id = some node ∧
    Altered fs (fs.tree.erase path) id node.afterRemoval fs.inodeCounter later

/-- What a request needs of the tree, and the tree that it asks for. -/
inductive Fulfilled (fs : FileTree) : Change → FileTree → Prop
  | makeDirectory {text : String} {path : Path} {inode : Inode} {later : FileTree}
      (named : fs.pathOf text = .ok path)
      (grown : Grown fs path (Node.fresh inode .directory directoryPermission) later) :
      Fulfilled fs (.makeDirectory text) later
  | makeNode {text : String} {kind : FileKind} {path : Path} {inode : Inode} {later : FileTree}
      (named : fs.pathOf text = .ok path)
      (grown : Grown fs path (Node.fresh inode kind nodePermission) later) :
      Fulfilled fs (.makeNode text kind) later
  | createFile {text : String} {data : Bytes} {path : Path} {inode : Inode} {later : FileTree}
      (named : fs.pathOf text = .ok path)
      (grown : Grown fs path ((Node.fresh inode .regular filePermission).withData data) later) :
      Fulfilled fs (.createFile text data) later
  | changeDirectory {text : String} {path : Path} (named : fs.pathOf text = .ok path)
      (there : fs.kindAt? path = some .directory) :
      Fulfilled fs (.changeDirectory text) { fs with directory := path }
  | unlink {text : String} {path : Path} {later : FileTree} (named : fs.pathOf text = .ok path)
      (shrunk : Shrunk fs path later) : Fulfilled fs (.unlink text) later

/-- A request is granted and leaves what it asks for, or it is refused, leaves everything as it
was, and asks for what cannot be had. -/
def AllOrNothing (fs : FileTree) (request : Change) (granted : Prop) (later : FileTree) : Prop :=
  granted ∧ Fulfilled fs request later ∨
    ¬ granted ∧ later = fs ∧ ∀ other, ¬ Fulfilled fs request other

def Leads (fs : FileTree) (text : String) (id : NodeId) (node : Node) : Prop :=
  ∃ path, fs.pathOf text = .ok path ∧ fs.tree.get? path = some id ∧ fs.node? id = some node

/-- The answer to an open that asks for a direction, with the tree it leaves. -/
inductive Opening (fs : FileTree) (text : String) (flags : OpenFlags) (mode : OpenMode)
    (permission : UInt32) : Except Error Object × FileTree → Prop
  | nameless (named : fs.pathOf text = .error .invalidPath) :
      Opening fs text flags mode permission (.error .noSuchEntry, fs)
  | taken {id : NodeId} {node : Node} (leads : Leads fs text id node)
      (create : flags.create = true) (exclusive : flags.exclusive = true) :
      Opening fs text flags mode permission (.error .fileExists, fs)
  | barred {id : NodeId} {node : Node} (leads : Leads fs text id node)
      (shared : ¬ (flags.create = true ∧ flags.exclusive = true))
      (directory : node.kind = .directory) (writes : mode.writable = true) :
      Opening fs text flags mode permission (.error .isDirectory, fs)
  | found {id : NodeId} {node : Node} {later : FileTree} (leads : Leads fs text id node)
      (shared : ¬ (flags.create = true ∧ flags.exclusive = true))
      (allowed : ¬ (node.kind = .directory ∧ mode.writable = true))
      (altered : Altered fs fs.tree id { node with
        data := if node.kind = .regular ∧ flags.truncate = true ∧ mode.writable = true then []
          else node.data
        opens := node.opens + 1 } fs.inodeCounter later) :
      Opening fs text flags mode permission (.ok ⟨node.inode, node.kind, id⟩, later)
  | missing {path : Path} (named : fs.pathOf text = .ok path) (vacant : path ∉ fs.tree)
      (create : flags.create = false) :
      Opening fs text flags mode permission (.error .noSuchEntry, fs)
  | misplaced {path : Path} {reason : Error} (named : fs.pathOf text = .ok path)
      (vacant : path ∉ fs.tree) (create : flags.create = true)
      (above : fs.kindAt? path.parent ≠ some .directory)
      (reported : reason = .noSuchEntry ∨ reason = .notDirectory) :
      Opening fs text flags mode permission (.error reason, fs)
  | made {path : Path} {inode : Inode} {later : FileTree} (named : fs.pathOf text = .ok path)
      (create : flags.create = true)
      (grown : Grown fs path { Node.fresh inode .regular permission with opens := 1 } later) :
      Opening fs text flags mode permission
        (.ok ⟨inode, .regular, ⟨fs.nodes.length⟩⟩, later)

/-! ### Trees that differ in one node -/

theorem Altered.eq (altered : Altered fs tree id node counter later)
    (altered' : Altered fs tree id node counter other) : later = other := by
  have nodes : later.nodes = other.nodes := by
    apply List.ext_getElem?
    intro index
    have first : later.nodes[index]? = _ := altered.rows ⟨index⟩
    rw [first]
    exact (altered'.rows ⟨index⟩).symm
  have trees := altered.tree.trans altered'.tree.symm
  have directories := altered.directory.trans altered'.directory.symm
  have counters := altered.counter.trans altered'.counter.symm
  have amounts := altered.granted.trans altered'.granted.symm
  cases later
  cases other
  cases nodes
  cases trees
  cases directories
  cases counters
  cases amounts
  rfl

theorem Altered.trans (first : Altered fs tree id node counter middle)
    (second : Altered middle middle.tree id next middle.inodeCounter later) :
    Altered fs tree id next counter later where
  tree := second.tree.trans first.tree
  rows row := by
    rw [second.rows, first.rows]
    split <;> rfl
  directory := second.directory.trans first.directory
  counter := second.counter.trans first.counter
  granted := second.granted.trans first.granted

theorem altered_refl (found : fs.node? id = some node) :
    Altered fs fs.tree id node fs.inodeCounter fs where
  tree := rfl
  rows row := by
    split
    · rename_i here
      rw [← here, found]
    · rfl
  directory := rfl
  counter := rfl
  granted := rfl

theorem altered_adjust (found : fs.node? id = some node) (f : Node → Node) :
    Altered fs fs.tree id (f node) fs.inodeCounter (fs.adjust id f) where
  tree := rfl
  rows row := by
    rw [node?_adjust]
    split
    · rename_i here
      rw [← here, found]
      rfl
    · rfl
  directory := rfl
  counter := rfl
  granted := rfl

/-! ### Requests of whoever administers the tree -/

theorem Grown.eq (grown : Grown fs path node later) (grown' : Grown fs path node other) :
    later = other :=
  grown.altered.eq grown'.altered

/-- A new node that is changed at once might have been made so. -/
theorem Grown.trans (grown : Grown fs path node middle) (numbered : next.inode = node.inode)
    (altered : Altered middle middle.tree ⟨fs.nodes.length⟩ next middle.inodeCounter later) :
    Grown fs path next later where
  vacant := grown.vacant
  above := grown.above
  number := numbered.trans grown.number
  altered := grown.altered.trans altered

theorem Created.grows (created : Created fs path kind permission id later) :
    id = ⟨fs.nodes.length⟩ ∧
      Grown fs path (Node.fresh (takeInode fs.inodeCounter).1 kind permission) later := by
  obtain ⟨vacant, above, rfl, rfl⟩ := created
  refine ⟨rfl, vacant, kindAt?_eq_some_iff_lookup.mpr above, rfl, ?_⟩
  exact ⟨rfl, node?_addNode kind permission, rfl, rfl, rfl⟩

/-- Nothing is created where the path above is no directory. -/
theorem createAt_misplaced (vacant : path ∉ fs.tree)
    (above : fs.kindAt? path.parent ≠ some .directory) (kind : FileKind) (permission : UInt32) :
    ∃ reason, fs.createAt path kind permission = .error reason ∧
      (reason.toError = .noSuchEntry ∨ reason.toError = .notDirectory) := by
  have absent : ¬ fs.tree.contains path = true := mt OrderedMap.contains_iff.mp vacant
  rw [createAt_eq, if_neg absent]
  cases found : fs.lookup path.parent with
  | error reason =>
      refine ⟨reason, rfl, .inl ?_⟩
      rw [lookup] at found
      split at found <;> cases found
      rfl
  | ok id =>
      have plain : fs.kindOf id ≠ some .directory :=
        fun directory => above (kindAt?_eq_some_iff_lookup.mpr ⟨id, found, directory⟩)
      exact ⟨.notDirectory, if_neg plain, .inr rfl⟩

/-- Creating and then changing what was created amounts to making it so: the change cannot fail,
and it reaches nothing else. -/
theorem create_map_eq_ok_iff {fill : NodeId × FileTree → FileTree} {f : Node → Node}
    (numbered : ∀ node, (f node).inode = node.inode)
    (filled : ∀ id grown node, grown.node? id = some node →
      Altered grown grown.tree id (f node) grown.inodeCounter (fill (id, grown))) :
    (fs.create text kind permission).map fill = .ok later ↔
      ∃ path inode, fs.pathOf text = .ok path ∧
        Grown fs path (f (Node.fresh inode kind permission)) later := by
  have outcome {id : NodeId} {made : FileTree} {path : Path}
      (created : Created fs path kind permission id made) :
      Grown fs path (f (Node.fresh (takeInode fs.inodeCounter).1 kind permission))
        (fill (id, made)) := by
    obtain ⟨rfl, grown⟩ := created.grows
    have here := grown.altered.rows ⟨fs.nodes.length⟩
    rw [if_pos rfl] at here
    exact grown.trans (numbered _) (filled _ _ _ here)
  constructor
  · intro granted
    obtain ⟨⟨id, made⟩, created, rfl⟩ := exists_ok_of_map granted
    obtain ⟨path, named, created⟩ := created_of_create created
    exact ⟨path, _, named, outcome created⟩
  · rintro ⟨path, inode, named, grown⟩
    obtain ⟨made, created⟩ := exists_created grown.vacant grown.above kind permission
    have number : inode = (takeInode fs.inodeCounter).1 := (numbered _).symm.trans grown.number
    subst number
    rw [create_eq, named]
    exact (congrArg (Except.map fill) created.createAt_eq).trans
      (congrArg Except.ok ((outcome created).eq grown))

theorem unlink_eq_ok_iff_shrunk (linked : fs.Linked) : fs.unlink text = .ok later ↔
    ∃ path, fs.pathOf text = .ok path ∧ Shrunk fs path later := by
  have told {path : Path} {id : NodeId} {node : Node} (found : fs.node? id = some node) :
      Altered fs (fs.tree.erase path) id node.afterRemoval fs.inodeCounter
        (FileTree.adjust { fs with tree := fs.tree.erase path } id Node.afterRemoval) :=
    have same : FileTree.node? { fs with tree := fs.tree.erase path } id = some node := found
    have altered := altered_adjust same Node.afterRemoval
    ⟨altered.tree, altered.rows, altered.directory, altered.counter, altered.granted⟩
  rw [unlink_eq_ok_iff]
  constructor
  · rintro ⟨path, id, named, below, leads, bare, rfl⟩
    obtain ⟨node, found, _⟩ := linked.present path id leads
    refine ⟨path, named, below, ?_, id, node, leads, found, told found⟩
    intro directory entry member
    obtain ⟨id', leads', kind⟩ := kindAt?_eq_some_iff.mp directory
    cases leads.symm.trans leads'
    refine Bool.eq_false_iff.mpr fun lower => bare ⟨kind, ?_⟩
    exact List.any_eq_true.mpr ⟨entry, OrderedMap.mem_keys_iff.mpr member, lower⟩
  · rintro ⟨path, named, below, bare, id, node, leads, found, altered⟩
    refine ⟨path, id, named, below, leads, ?_, altered.eq (told found)⟩
    rintro ⟨directory, lower⟩
    obtain ⟨entry, member, lower⟩ := List.any_eq_true.mp lower
    have apart := bare (kindAt?_eq_some_iff.mpr ⟨id, leads, directory⟩) entry
      (OrderedMap.mem_keys_iff.mp member)
    rw [apart] at lower
    cases lower

/-- What is granted is what was asked for, and all that can be had is granted. -/
theorem change_eq_ok_iff (linked : fs.Linked) {request : Change} :
    fs.change request = .ok later ↔ Fulfilled fs request later := by
  cases request with
  | makeDirectory text =>
      rw [change_makeDirectory]
      refine (create_map_eq_ok_iff (f := fun node => node) (fun _ => rfl)
        fun _ _ _ found => altered_refl found).trans ⟨?_, ?_⟩
      · rintro ⟨path, inode, named, grown⟩
        exact .makeDirectory named grown
      · rintro ⟨named, grown⟩
        exact ⟨_, _, named, grown⟩
  | makeNode text kind =>
      rw [change_makeNode]
      refine (create_map_eq_ok_iff (f := fun node => node) (fun _ => rfl)
        fun _ _ _ found => altered_refl found).trans ⟨?_, ?_⟩
      · rintro ⟨path, inode, named, grown⟩
        exact .makeNode named grown
      · intro fulfilled
        cases fulfilled with
        | makeNode named grown => exact ⟨_, _, named, grown⟩
  | createFile text data =>
      rw [change_createFile]
      refine (create_map_eq_ok_iff (f := fun node => node.withData data) (fun _ => rfl)
        fun _ _ _ found => altered_adjust found (·.withData data)).trans ⟨?_, ?_⟩
      · rintro ⟨path, inode, named, grown⟩
        exact .createFile named grown
      · intro fulfilled
        cases fulfilled with
        | createFile named grown => exact ⟨_, _, named, grown⟩
  | changeDirectory text =>
      refine changeDirectory_eq_ok_iff.trans ⟨?_, ?_⟩
      · rintro ⟨path, named, there, rfl⟩
        exact .changeDirectory named there
      · intro fulfilled
        cases fulfilled with
        | changeDirectory named there => exact ⟨_, named, there, rfl⟩
  | unlink text =>
      refine (unlink_eq_ok_iff_shrunk linked).trans ⟨?_, ?_⟩
      · rintro ⟨path, named, shrunk⟩
        exact .unlink named shrunk
      · intro fulfilled
        cases fulfilled with
        | unlink named shrunk => exact ⟨_, named, shrunk⟩

theorem allOrNothing_change (linked : fs.Linked) (request : Change) :
    AllOrNothing fs request (fs.Granted request) (fs.after request) := by
  cases granted : fs.change request with
  | ok later =>
      have next : fs.after request = later := by rw [after_eq, granted]
      rw [next]
      exact .inl ⟨⟨later, granted⟩, (change_eq_ok_iff linked).mp granted⟩
  | error reason =>
      have same : fs.after request = fs := by rw [after_eq, granted]
      have refused := not_granted_of_error granted
      refine .inr ⟨refused, same, fun other fulfilled => refused ⟨other, ?_⟩⟩
      exact (change_eq_ok_iff linked).mpr fulfilled

/-- The tables remove paths as administration does. -/
theorem allOrNothing_removePath (linked : fs.Linked) (text : String) :
    AllOrNothing fs (.unlink text) ((fs.removePath text).1 = .ok ()) (fs.removePath text).2 := by
  have unlinks {later : FileTree} := @change_eq_ok_iff fs later linked (.unlink text)
  cases removed : fs.unlink text with
  | ok later =>
      have answer : fs.removePath text = (.ok (), later) := by rw [removePath_eq, removed]
      rw [answer]
      exact .inl ⟨rfl, unlinks.mp removed⟩
  | error reason =>
      have answer : fs.removePath text = (.error reason.toError, fs) := by
        rw [removePath_eq, removed]
      rw [answer]
      refine .inr ⟨fun granted => (by cases granted), rfl, fun other fulfilled => ?_⟩
      cases (unlinks.mpr fulfilled).symm.trans removed

/-! ### Opens -/

theorem Leads.eq {id' : NodeId} {node' : Node} (leads : Leads fs text id node)
    (leads' : Leads fs text id' node') : id = id' ∧ node = node' := by
  obtain ⟨path, named, row, found⟩ := leads
  obtain ⟨path', named', row', found'⟩ := leads'
  cases named.symm.trans named'
  cases row.symm.trans row'
  exact ⟨rfl, Option.some.inj (found.symm.trans found')⟩

theorem locate_of_leads (leads : Leads fs text id node) (create exclusive : Bool)
    (permission : UInt32) :
    fs.locate text create exclusive permission =
      if create = true ∧ exclusive = true then .error .fileExists else .ok (id, fs) := by
  obtain ⟨path, named, row, _⟩ := leads
  simp only [locate_eq, named, row, bind, Except.bind, Bool.and_eq_true]

theorem locate_of_vacant (named : fs.pathOf text = .ok path) (vacant : path ∉ fs.tree)
    (create exclusive : Bool) (permission : UInt32) :
    fs.locate text create exclusive permission =
      if create then fs.createAt path .regular permission else .error .notFound := by
  have absent := OrderedMap.not_mem_iff.mp vacant
  simp only [locate_eq, named, absent, bind, Except.bind]

/-- The last check of an open. It fails only for a directory. -/
theorem openPath_barred (asked : flags.openMode = .ok mode)
    (located : fs.locate text flags.create flags.exclusive permission = .ok (id, middle))
    (found : middle.node? id = some node) (directory : node.kind = .directory)
    (writes : mode.writable = true) :
    fs.openPath text flags permission = .error .isDirectory := by
  simp only [openPath_eq, asked, located, found, directory, writes, bind, Except.bind,
    Except.mapError, and_self, if_true]

/-- An open that passes the last check may empty the node it has located, and counts itself. -/
theorem openPath_admitted (asked : flags.openMode = .ok mode)
    (located : fs.locate text flags.create flags.exclusive permission = .ok (id, middle))
    (found : middle.node? id = some node)
    (allowed : ¬ (node.kind = .directory ∧ mode.writable = true)) :
    ∃ later, fs.openPath text flags permission = .ok (⟨node.inode, node.kind, id⟩, later) ∧
      Altered middle middle.tree id { node with
        data := if node.kind = .regular ∧ flags.truncate = true ∧ mode.writable = true then []
          else node.data
        opens := node.opens + 1 } middle.inodeCounter later := by
  simp only [openPath_eq, asked, located, found, bind, Except.bind, Except.mapError, if_neg allowed]
  refine ⟨_, rfl, ?_⟩
  split
  · have emptied := altered_adjust found (·.withData [])
    have here := emptied.rows id
    rw [if_pos rfl] at here
    exact emptied.trans (altered_adjust here Node.afterOpen)
  · exact altered_adjust found Node.afterOpen

theorem openPath_of_locate_error {reason : TreeError} (asked : flags.openMode = .ok mode)
    (refused : fs.locate text flags.create flags.exclusive permission = .error reason) :
    fs.openPath text flags permission = .error reason.toError := by
  simp only [openPath_eq, asked, refused, bind, Except.bind, Except.mapError]

theorem openObject_of_error {reason : Error}
    (refused : fs.openPath text flags permission = .error reason) :
    openObject text flags permission fs = (.error reason, fs) := by
  rw [openObject_eq, refused]

theorem openObject_of_ok {object : Object}
    (opened : fs.openPath text flags permission = .ok (object, later)) :
    openObject text flags permission fs = (.ok object, later) := by
  rw [openObject_eq, opened]

theorem openObject_taken (asked : flags.openMode = .ok mode) (leads : Leads fs text id node)
    (exclusive : flags.create = true ∧ flags.exclusive = true) (permission : UInt32) :
    openObject text flags permission fs = (.error .fileExists, fs) := by
  have located := locate_of_leads leads flags.create flags.exclusive permission
  rw [if_pos exclusive] at located
  exact openObject_of_error (openPath_of_locate_error asked located)

section

variable (asked : flags.openMode = .ok mode) (leads : Leads fs text id node)
variable (shared : ¬ (flags.create = true ∧ flags.exclusive = true))

include asked leads shared

theorem openObject_barred (barred : node.kind = .directory ∧ mode.writable = true)
    (permission : UInt32) :
    openObject text flags permission fs = (.error .isDirectory, fs) := by
  have located := locate_of_leads leads flags.create flags.exclusive permission
  rw [if_neg shared] at located
  obtain ⟨_, _, _, found⟩ := leads
  exact openObject_of_error (openPath_barred asked located found barred.1 barred.2)

theorem openObject_found (allowed : ¬ (node.kind = .directory ∧ mode.writable = true))
    (permission : UInt32) :
    ∃ later, openObject text flags permission fs = (.ok ⟨node.inode, node.kind, id⟩, later) ∧
      Altered fs fs.tree id { node with
        data := if node.kind = .regular ∧ flags.truncate = true ∧ mode.writable = true then []
          else node.data
        opens := node.opens + 1 } fs.inodeCounter later := by
  have located := locate_of_leads leads flags.create flags.exclusive permission
  rw [if_neg shared] at located
  obtain ⟨_, _, _, found⟩ := leads
  obtain ⟨later, opened, altered⟩ := openPath_admitted asked located found allowed
  exact ⟨later, openObject_of_ok opened, altered⟩

end

/-- Text that leads somewhere is refused to those who want it new, and a directory to those who
want to write. Anything else is opened. -/
theorem opening_of_leads (asked : flags.openMode = .ok mode) (leads : Leads fs text id node)
    (permission : UInt32) :
    Opening fs text flags mode permission (openObject text flags permission fs) := by
  by_cases exclusive : flags.create = true ∧ flags.exclusive = true
  · rw [openObject_taken asked leads exclusive]
    exact .taken leads exclusive.1 exclusive.2
  · by_cases barred : node.kind = .directory ∧ mode.writable = true
    · rw [openObject_barred asked leads exclusive barred]
      exact .barred leads exclusive barred.1 barred.2
    · obtain ⟨later, opened, altered⟩ := openObject_found asked leads exclusive barred permission
      rw [opened]
      exact .found leads exclusive barred altered

/-- A file that an open makes passes the last check, because it is no directory. -/
theorem openPath_of_created (asked : flags.openMode = .ok mode)
    (located : fs.locate text flags.create flags.exclusive permission = .ok (id, middle))
    (created : Created fs path .regular permission id middle) :
    ∃ inode later, fs.openPath text flags permission = .ok (⟨inode, .regular, id⟩, later) ∧
      Grown fs path { Node.fresh inode .regular permission with opens := 1 } later := by
  obtain ⟨rfl, grown⟩ := created.grows
  have here := grown.altered.rows ⟨fs.nodes.length⟩
  rw [if_pos rfl] at here
  obtain ⟨later, opened, altered⟩ := openPath_admitted asked located here (by rintro ⟨⟨⟩, _⟩)
  simp only [Node.fresh, ite_self] at altered
  exact ⟨_, later, opened, grown.trans rfl altered⟩

/-- Text that leads nowhere is opened only by making a file. -/
theorem opening_of_vacant (asked : flags.openMode = .ok mode) (named : fs.pathOf text = .ok path)
    (vacant : path ∉ fs.tree) (permission : UInt32) :
    Opening fs text flags mode permission (openObject text flags permission fs) := by
  have located := locate_of_vacant named vacant flags.create flags.exclusive permission
  cases create : flags.create with
  | false =>
      rw [create, if_neg Bool.false_ne_true, ← create] at located
      rw [openObject_of_error (openPath_of_locate_error asked located)]
      exact .missing named vacant create
  | true =>
      rw [create, if_pos rfl, ← create] at located
      by_cases above : fs.kindAt? path.parent = some .directory
      · obtain ⟨middle, created⟩ := exists_created vacant above .regular permission
        obtain ⟨inode, later, opened, grown⟩ :=
          openPath_of_created asked (located.trans created.createAt_eq) created
        rw [openObject_of_ok opened]
        exact .made named create grown
      · obtain ⟨reason, refused, reported⟩ := createAt_misplaced vacant above .regular permission
        rw [openObject_of_error (openPath_of_locate_error asked (located.trans refused))]
        exact .misplaced named vacant create above reported

/-- Text names a node, or a path that leads nowhere, or no path. -/
theorem leads_or_vacant (linked : fs.Linked) (text : String) :
    (∃ id node, Leads fs text id node) ∨ (∃ path, fs.pathOf text = .ok path ∧ path ∉ fs.tree) ∨
      fs.pathOf text = .error .invalidPath := by
  cases named : fs.pathOf text with
  | error reason =>
      rw [pathOf] at named
      split at named <;> cases named
      exact .inr (.inr rfl)
  | ok path =>
      cases row : fs.tree.get? path with
      | none => exact .inr (.inl ⟨path, rfl, OrderedMap.not_mem_iff.mpr row⟩)
      | some id =>
          obtain ⟨node, found, _⟩ := linked.present path id row
          exact .inl ⟨id, node, path, named, row, found⟩

theorem opening (linked : fs.Linked) (asked : flags.openMode = .ok mode) (text : String)
    (permission : UInt32) :
    Opening fs text flags mode permission (openObject text flags permission fs) := by
  rcases leads_or_vacant linked text with ⟨id, node, leads⟩ | ⟨path, named, vacant⟩ | named
  · exact opening_of_leads asked leads permission
  · exact opening_of_vacant asked named vacant permission
  · have refused :
        fs.locate text flags.create flags.exclusive permission = .error .invalidPath := by
      rw [locate_eq, named]
      rfl
    rw [openObject_of_error (openPath_of_locate_error asked refused)]
    exact .nameless named

/-- Nothing has been made when an open is refused, not even to be taken back. -/
theorem eq_of_locate {reason : Error} (asked : flags.openMode = .ok mode)
    (refused : (openObject text flags permission fs).1 = .error reason)
    (located : fs.locate text flags.create flags.exclusive permission = .ok (id, middle)) :
    middle = fs := by
  obtain ⟨path, _, ⟨_, same⟩ | created⟩ := located_or_created located
  · exact same
  · obtain ⟨_, _, opened, _⟩ := openPath_of_created asked located created
    rw [openObject_of_ok opened] at refused
    cases refused

/-- What an open does that asks for a direction. -/
structure OpensWhole (fs : FileTree) (text : String) (flags : OpenFlags) (mode : OpenMode)
    (permission : UInt32) : Prop where
  opening : Opening fs text flags mode permission (openObject text flags permission fs)
  /-- A refused open leaves the tree, and has not made anything in it before. -/
  refused : ∀ reason, (openObject text flags permission fs).1 = .error reason →
    (openObject text flags permission fs).2 = fs ∧ ∀ id located,
      fs.locate text flags.create flags.exclusive permission = .ok (id, located) → located = fs
  exclusive : (openObject text flags permission fs).1 = .error .fileExists ↔
    (flags.create = true ∧ flags.exclusive = true) ∧ ∃ id node, Leads fs text id node
  /-- Otherwise what exists is refused if it is a directory to be written, and opened if not. -/
  existing : ∀ id node, Leads fs text id node →
    ¬ (flags.create = true ∧ flags.exclusive = true) →
      (node.kind = .directory ∧ mode.writable = true →
        (openObject text flags permission fs).1 = .error .isDirectory) ∧
      (¬ (node.kind = .directory ∧ mode.writable = true) →
        (openObject text flags permission fs).1 = .ok ⟨node.inode, node.kind, id⟩)

/-- Only what exists is refused because it exists. -/
theorem Opening.fileExists {later : FileTree}
    (opening : Opening fs text flags mode permission (.error .fileExists, later)) :
    (flags.create = true ∧ flags.exclusive = true) ∧ ∃ id node, Leads fs text id node := by
  cases opening with
  | taken leads create exclusive => exact ⟨⟨create, exclusive⟩, _, _, leads⟩
  | misplaced _ _ _ _ reported => rcases reported with reported | reported <;> cases reported

theorem opensWhole (linked : fs.Linked) (asked : flags.openMode = .ok mode) (text : String)
    (permission : UInt32) : OpensWhole fs text flags mode permission where
  opening := opening linked asked text permission
  refused reason refused := by
    refine ⟨?_, fun id located answer => eq_of_locate asked refused answer⟩
    exact eq_of_openObject (Prod.ext refused rfl)
  exclusive := by
    constructor
    · intro refused
      have whole := opening linked asked text permission
      rw [← Prod.eta (openObject text flags permission fs), refused] at whole
      exact whole.fileExists
    · rintro ⟨exclusive, id, node, leads⟩
      rw [openObject_taken asked leads exclusive]
  existing id node leads shared := by
    refine ⟨fun barred => ?_, fun allowed => ?_⟩
    · rw [openObject_barred asked leads shared barred]
    · obtain ⟨later, opened, _⟩ := openObject_found asked leads shared allowed permission
      rw [opened]

/-- Whatever is asked of a tree happens as a whole or not at all. A request is granted exactly
when what it needs is there, and then it does what it says and nothing else. -/
theorem requests_all_or_nothing (reached : fs.Reached) :
    (∀ request, AllOrNothing fs request (fs.Granted request) (fs.after request)) ∧
    (∀ text, AllOrNothing fs (.unlink text) ((fs.removePath text).1 = .ok ())
      (fs.removePath text).2) ∧
    ∀ text flags mode permission, flags.openMode = .ok mode →
      OpensWhole fs text flags mode permission :=
  have linked := reached.linked
  ⟨allOrNothing_change linked, allOrNothing_removePath linked,
    fun text _ _ permission asked => opensWhole linked asked text permission⟩

/-- A file that exists is not made anew, but a writer may have it emptied. A directory is not
opened for writing, and nothing is made below a file. The empty directory can be removed. -/
theorem requests_all_or_nothing_beside_directory :
    let fs := [.createFile "/f" [1, 2], .makeDirectory "/d"].foldl FileTree.after initial
    fs.Reached ∧ (OpenFlags.ofBits 14).openMode = .ok .readWrite ∧
      (openObject "/f" (.ofBits 14) 0o600 fs).2 = fs ∧
      (openObject "/f" (.ofBits 14) 0o600 fs).1 = .error .fileExists ∧
      Opening fs "/f" (.ofBits 17) .write 0 (openObject "/f" (.ofBits 17) 0 fs) ∧
      (openObject "/f" (.ofBits 17) 0 fs).2.contents "/f" = .ok [] ∧
      (openObject "/d" (.ofBits 1) 0 fs).1 = .error .isDirectory ∧
      fs.after (.makeDirectory "/f/e") = fs ∧
      Fulfilled fs (.unlink "/d") (fs.removePath "/d").2 := by
  intro fs
  have reached : fs.Reached := Reached.initial.foldl_after _
  obtain ⟨changes, removals, opens⟩ := requests_all_or_nothing reached
  have taken := opens "/f" (.ofBits 14) .readWrite 0o600 rfl
  have emptied := opens "/f" (.ofBits 17) .write 0 rfl
  have barred := opens "/d" (.ofBits 1) .write 0 rfl
  have leads : Leads fs "/f" ⟨4⟩ ⟨⟨5, by decide⟩, .regular, 0o644, [1, 2], 0, 0, false⟩ :=
    ⟨⟨["f"]⟩, rfl, rfl, rfl⟩
  have directory : Leads fs "/d" ⟨5⟩ ⟨⟨6, by decide⟩, .directory, 0o755, [], 0, 0, false⟩ :=
    ⟨⟨["d"]⟩, rfl, rfl, rfl⟩
  have refused := taken.exclusive.mpr ⟨⟨rfl, rfl⟩, _, _, leads⟩
  refine ⟨reached, rfl, (taken.refused _ refused).1, refused, emptied.opening, rfl,
    (barred.existing _ _ directory (by decide)).1 ⟨rfl, rfl⟩, ?_, ?_⟩
  · rcases changes (.makeDirectory "/f/e") with ⟨granted, _⟩ | ⟨_, same, _⟩
    · obtain ⟨_, ⟨⟩⟩ := granted
    · exact same
  · rcases removals "/d" with ⟨_, fulfilled⟩ | ⟨refused, _⟩
    · exact fulfilled
    · exact absurd rfl refused

end FileTree

end OpenFiles
