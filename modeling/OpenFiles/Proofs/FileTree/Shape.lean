import OpenFiles.Proofs.FileTree.Steps
import OpenFiles.Proofs.FileTree.Texts

/-!
# The shape of the file tree

A tree is one map from paths to nodes, so nothing in its type makes it a tree. That it
is one is an invariant, `Shaped`: the root leads to a directory, all paths consist of names,
and the path above any other leads to a directory. New nodes only come below directories, and
a directory only goes when nothing lies below it, so every request keeps the shape.

`WellFormed` says the same of a tree whose paths are kept as text.
-/

namespace OpenFiles

namespace FileTree

variable {fs later : FileTree} {id : NodeId} {path : Path} {text key : String}

def kindAt? (fs : FileTree) (path : Path) : Option FileKind :=
  (fs.tree.get? path).bind fs.kindOf

/-- The paths of a tree are those of a tree: they consist of names, they start from a directory
at the root, and each goes on from a directory. -/
structure Shaped (fs : FileTree) : Prop where
  top : fs.kindAt? Path.root = some .directory
  named : ∀ path ∈ fs.tree, path.Named
  start : fs.directory.Named
  above : ∀ path ∈ fs.tree, fs.kindAt? path.parent = some .directory

theorem kindAt?_eq_some_iff {kind : FileKind} :
    fs.kindAt? path = some kind ↔ ∃ id, fs.tree.get? path = some id ∧ fs.kindOf id = some kind :=
  Option.bind_eq_some_iff

theorem kindAt?_eq_some_iff_lookup {kind : FileKind} :
    fs.kindAt? path = some kind ↔ ∃ id, fs.lookup path = .ok id ∧ fs.kindOf id = some kind := by
  simp only [kindAt?_eq_some_iff, lookup_eq_ok_iff]

/-- A node can be created at every path that leads nowhere and goes on from a directory. It takes
the next row. -/
theorem exists_created (vacant : path ∉ fs.tree)
    (above : fs.kindAt? path.parent = some .directory) (kind : FileKind) (permission : UInt32) :
    ∃ later, Created fs path kind permission ⟨fs.nodes.length⟩ later :=
  ⟨_, vacant, kindAt?_eq_some_iff_lookup.mp above, rfl, rfl⟩

/-- Paths that lead where they led lead to what they led to. -/
theorem Extends.kindAt? {kind : FileKind} (grown : Extends fs later)
    (same : later.tree.get? path = fs.tree.get? path) (known : fs.kindAt? path = some kind) :
    later.kindAt? path = some kind := by
  obtain ⟨id, leads, ofKind⟩ := kindAt?_eq_some_iff.mp known
  obtain ⟨node, found, rfl⟩ := Option.map_eq_some_iff.mp ofKind
  obtain ⟨node', found', _, kind'⟩ := grown id node found
  refine kindAt?_eq_some_iff.mpr ⟨id, same.trans leads, ?_⟩
  rw [kindOf, found', Option.map_some, kind']

/-- The path that a text names consists of names. -/
theorem Shaped.named_of_pathOf (shaped : fs.Shaped) (names : fs.pathOf text = .ok path) :
    path.Named := by
  unfold pathOf Path.ofText? at names
  split at names
  · rename_i found
    cases names
    split at found
    · cases found
    · split at found
      · cases found
        exact Path.walk_isName Path.named_root
      · cases found
        exact Path.walk_isName shaped.start
  · cases names

/-- What leaves the paths alone leaves the shape alone. -/
theorem Shaped.extended (shaped : fs.Shaped) (grown : Extends fs later)
    (tree : later.tree = fs.tree) (directory : later.directory = fs.directory) :
    later.Shaped where
  top := grown.kindAt? (by rw [tree]) shaped.top
  named := by
    rw [tree]
    exact shaped.named
  start := by
    rw [directory]
    exact shaped.start
  above path member := by
    rw [tree] at member
    exact grown.kindAt? (by rw [tree]) (shaped.above path member)

/-- A new path goes on from a directory. -/
theorem Shaped.created {kind : FileKind} {permission : UInt32} (shaped : fs.Shaped)
    (created : Created fs path kind permission id later) (named : path.Named) : later.Shaped := by
  have grown : Extends fs later := created.keeps.grown
  obtain ⟨vacant, above, _, rfl⟩ := created
  have led := kindAt?_eq_some_iff_lookup.mpr above
  -- A directory is not where the new path leads, for that led nowhere.
  have kept (other : Path) (there : fs.kindAt? other = some .directory) :
      FileTree.kindAt? { (fs.addNode kind permission).2 with tree := fs.tree.insert path id }
        other = some .directory := by
    refine grown.kindAt? ?_ there
    obtain ⟨row, leads, _⟩ := kindAt?_eq_some_iff.mp there
    refine OrderedMap.get?_insert_of_ne _ ?_ _
    rintro rfl
    exact vacant (OrderedMap.mem_iff.mpr ⟨row, leads⟩)
  refine ⟨kept _ shaped.top, ?_, shaped.start, ?_⟩
  · intro other member
    rcases OrderedMap.mem_insert.mp member with rfl | member
    · exact named
    · exact shaped.named other member
  · intro other member
    rcases OrderedMap.mem_insert.mp member with rfl | member
    · exact kept _ led
    · exact kept _ (shaped.above other member)

/-- What lies directly below a directory keeps it from being removed. -/
theorem Shaped.unlinked (shaped : fs.Shaped) (removed : fs.unlink text = .ok later) :
    later.Shaped := by
  have grown : Extends fs later := (keeps_unlink removed).grown
  obtain ⟨path, id, _, below, leads, bare, rfl⟩ := unlink_eq_ok_iff.mp removed
  have kept (other : Path) (apart : path ≠ other) (there : fs.kindAt? other = some .directory) :
      FileTree.kindAt? (FileTree.adjust { fs with tree := fs.tree.erase path } id
        Node.afterRemoval) other = some .directory :=
    grown.kindAt? (OrderedMap.get?_erase_of_ne _ apart) there
  refine ⟨kept _ below shaped.top, ?_, shaped.start, ?_⟩
  · intro other member
    exact shaped.named other (OrderedMap.mem_erase.mp member).2
  · intro other member
    obtain ⟨apart, remained⟩ := OrderedMap.mem_erase.mp member
    have there := shaped.above other remained
    refine kept _ ?_ there
    rintro rfl
    obtain ⟨row, leads', directory⟩ := kindAt?_eq_some_iff.mp there
    have same : id = row := Option.some.inj (leads.symm.trans leads')
    have lower : other.isBelow other.parent = true := by
      refine Path.isBelow_parent ?_
      rintro rfl
      exact below Path.parent_root
    have listed : other ∈ fs.tree.keys := OrderedMap.mem_keys_iff.mpr remained
    exact bare ⟨same ▸ directory, List.any_eq_true.mpr ⟨other, listed, lower⟩⟩

theorem shaped_bare : bare.Shaped := by
  have leads (path : Path) :
      bare.tree.get? path = if Path.root = path then some ⟨0⟩ else none :=
    OrderedMap.get?_insert _ _ _ _
  have only : ∀ path ∈ bare.tree, path = Path.root := by
    intro path member
    obtain ⟨id, found⟩ := OrderedMap.mem_iff.mp member
    rw [leads] at found
    split at found
    · rename_i same
      exact same.symm
    · cases found
  have top : bare.kindAt? Path.root = some .directory := rfl
  refine ⟨top, ?_, Path.named_root, ?_⟩
  · intro path member
    rw [only path member]
    exact Path.named_root
  · intro path member
    rw [only path member]
    exact top

/-- Every step keeps the shape. -/
theorem Shaped.step (shaped : fs.Shaped) (step : Step fs later) : later.Shaped := by
  cases step with
  | created created named =>
      obtain ⟨text, names⟩ := named
      exact shaped.created created (shaped.named_of_pathOf names)
  | adjusted id f kept => exact shaped.extended (extends_adjust kept) rfl rfl
  | moved directory named =>
      obtain ⟨text, names⟩ := named
      exact ⟨shaped.top, shaped.named, shaped.named_of_pathOf names, shaped.above⟩
  | unlinked removed => exact shaped.unlinked removed
  | limited bytes => exact ⟨shaped.top, shaped.named, shaped.start, shaped.above⟩

/-- The paths of a tree are those of a tree at all times. -/
theorem Reached.shaped (reached : fs.Reached) : fs.Shaped :=
  reached.induction (fun _ _ step shaped => shaped.step step) shaped_bare

/-! ### Trees kept as text -/

def keys (fs : FileTree) : List String := fs.tree.keys.map Path.render

def kindUnder? (fs : FileTree) (key : String) : Option FileKind :=
  ((fs.tree.entries.find? fun entry => entry.1.render = key).map Prod.snd).bind fs.kindOf

/-- What is asked of a tree that keeps its nodes under texts: no text twice, a directory under
the lone slash, nothing but texts of absolute paths in normal form, and for each of them
the text of its parent, with a directory under it. -/
structure WellFormed (fs : FileTree) : Prop where
  distinct : fs.keys.Nodup
  top : "/" ∈ fs.keys ∧ fs.kindUnder? "/" = some .directory
  normal : ∀ key ∈ fs.keys, Path.Normal key
  parent : ∀ key ∈ fs.keys, key ≠ "/" →
    Path.textAbove key ∈ fs.keys ∧ fs.kindUnder? (Path.textAbove key) = some .directory

/-- Something lies below a directory other than the root: something is kept under a text that
goes on from its own after a slash. -/
def HasBelow (fs : FileTree) (text : String) : Prop :=
  ∃ key ∈ fs.keys, text.toList ++ ['/'] <+: key.toList

theorem mem_keys_iff : key ∈ fs.keys ↔ ∃ path ∈ fs.tree, path.render = key := by
  simp only [keys, List.mem_map, OrderedMap.mem_keys_iff]

theorem mem_of_kindAt? {kind : FileKind} (known : fs.kindAt? path = some kind) :
    path ∈ fs.tree := by
  obtain ⟨id, leads, _⟩ := kindAt?_eq_some_iff.mp known
  exact OrderedMap.mem_iff.mpr ⟨id, leads⟩

/-- Under the text of a path is what the path leads to. -/
theorem Shaped.kindUnder?_render (shaped : fs.Shaped) (named : path.Named) :
    fs.kindUnder? path.render = fs.kindAt? path := by
  have same : fs.tree.entries.find? (fun entry => entry.1.render = path.render) =
      fs.tree.entries.find? fun entry => entry.1 = path := by
    rw [← List.head?_filter, ← List.head?_filter]
    refine congrArg List.head? (List.filter_congr ?_)
    intro entry listed
    have member : entry.1 ∈ fs.tree :=
      OrderedMap.mem_iff.mpr ⟨entry.2, OrderedMap.mem_entries_iff.mp listed⟩
    exact decide_eq_decide.mpr ((shaped.named entry.1 member).render_inj named)
  rw [kindUnder?, same]
  rfl

theorem Shaped.hasBelow_render (shaped : fs.Shaped) (named : path.Named)
    (below : path ≠ Path.root) :
    fs.HasBelow path.render ↔ fs.tree.keys.any (·.isBelow path) = true := by
  simp only [HasBelow, mem_keys_iff, List.any_eq_true, OrderedMap.mem_keys_iff]
  constructor
  · rintro ⟨_, ⟨other, member, rfl⟩, starts⟩
    have named' := shaped.named other member
    exact ⟨other, member, (named'.render_slash_prefix_iff named below).mp starts⟩
  · rintro ⟨other, member, lower⟩
    have named' := shaped.named other member
    exact ⟨_, ⟨other, member, rfl⟩, (named'.render_slash_prefix_iff named below).mpr lower⟩

theorem Shaped.wellFormed (shaped : fs.Shaped) : fs.WellFormed where
  distinct := by
    refine List.pairwise_map.mpr (fs.tree.nodup_keys.imp_of_mem ?_)
    intro path path' listed listed' apart same
    have named := shaped.named path (OrderedMap.mem_keys_iff.mp listed)
    have named' := shaped.named path' (OrderedMap.mem_keys_iff.mp listed')
    exact apart ((named.render_inj named').mp same)
  top := ⟨mem_keys_iff.mpr ⟨Path.root, mem_of_kindAt? shaped.top, rfl⟩,
    (shaped.kindUnder?_render Path.named_root).trans shaped.top⟩
  normal key listed := by
    obtain ⟨path, member, rfl⟩ := mem_keys_iff.mp listed
    exact (shaped.named path member).normal_render
  parent key listed below := by
    obtain ⟨path, member, rfl⟩ := mem_keys_iff.mp listed
    have named := shaped.named path member
    have above := shaped.above path member
    rw [named.textAbove_render]
    exact ⟨mem_keys_iff.mpr ⟨path.parent, mem_of_kindAt? above, rfl⟩,
      (shaped.kindUnder?_render named.parent).trans above⟩

/-- A directory can be removed exactly when nothing lies below it, unless it is the root. -/
theorem Shaped.unlink_directory_iff (shaped : fs.Shaped) (names : fs.pathOf text = .ok path)
    (directory : fs.kindUnder? path.render = some .directory) (below : path.render ≠ "/") :
    (∃ later, fs.unlink text = .ok later) ↔ ¬ fs.HasBelow path.render := by
  have named := shaped.named_of_pathOf names
  have below : path ≠ Path.root := mt named.render_eq_slash.mpr below
  rw [shaped.kindUnder?_render named] at directory
  rw [shaped.hasBelow_render named below]
  obtain ⟨id, leads, kind⟩ := kindAt?_eq_some_iff.mp directory
  constructor
  · rintro ⟨later, removed⟩ lower
    obtain ⟨path', id', names', _, leads', bare, _⟩ := unlink_eq_ok_iff.mp removed
    cases names.symm.trans names'
    cases leads.symm.trans leads'
    exact bare ⟨kind, lower⟩
  · intro bare
    exact ⟨_, unlink_eq_ok_iff.mpr ⟨path, id, names, below, leads, fun both => bare both.2, rfl⟩⟩

theorem unlink_root (names : fs.pathOf text = .ok Path.root) : fs.unlink text = .error .busy := by
  simp only [unlink_eq, names, bind, Except.bind, if_true]

instance (fs : FileTree) (text : String) : Decidable (fs.HasBelow text) :=
  inferInstanceAs (Decidable (∃ key ∈ fs.keys, text.toList ++ ['/'] <+: key.toList))

/-- Whatever was asked of a tree, it is well formed. A directory other than the root can be
removed exactly when nothing lies below it, and the root never. -/
theorem wellFormed_of_reached (reached : fs.Reached) :
    fs.WellFormed ∧ ∀ text path, fs.pathOf text = .ok path →
      fs.kindUnder? path.render = some .directory →
        (path.render ≠ "/" → ((∃ later, fs.unlink text = .ok later) ↔ ¬ fs.HasBelow path.render)) ∧
        (path.render = "/" → fs.unlink text = .error .busy) := by
  have shaped : fs.Shaped := reached.shaped
  refine ⟨shaped.wellFormed, ?_⟩
  intro text path names directory
  refine ⟨shaped.unlink_directory_iff names directory, ?_⟩
  intro top
  rw [(shaped.named_of_pathOf names).render_eq_slash] at top
  exact unlink_root (top ▸ names)

/-- A directory whose name merely starts another name has nothing below it. -/
theorem wellFormed_beside_longer_name :
    let fs := [.makeDirectory "/a", .makeDirectory "/ab", .createFile "/ab/x" []].foldl
      FileTree.after initial
    fs.WellFormed ∧ (∃ later, fs.unlink "/a" = .ok later) ∧
      ¬ ∃ later, fs.unlink "/ab" = .ok later := by
  intro fs
  have reached : fs.Reached := Reached.initial.foldl_after _
  obtain ⟨wellFormed, removable⟩ := wellFormed_of_reached reached
  refine ⟨wellFormed, ?_, ?_⟩
  · exact ((removable "/a" ⟨["a"]⟩ rfl (by decide)).1 (by decide)).mpr (by decide)
  · exact fun removed =>
      ((removable "/ab" ⟨["ab"]⟩ rfl (by decide)).1 (by decide)).mp removed (by decide)

/-- The root is not removed even when nothing lies below it. -/
theorem root_kept_without_entries :
    let fs := [.unlink "/dev/null", .unlink "/dev/tty", .unlink "/dev"].foldl FileTree.after initial
    fs.Reached ∧ fs.kindUnder? "/" = some .directory ∧ fs.keys = ["/"] ∧
      ¬ ∃ later, fs.unlink "/" = .ok later := by
  refine ⟨Reached.initial.foldl_after _, by decide, by decide, ?_⟩
  rintro ⟨later, removed⟩
  cases removed

end FileTree

end OpenFiles
