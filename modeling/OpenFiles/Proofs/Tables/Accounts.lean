import OpenFiles.Proofs.OpenFile
import OpenFiles.Proofs.Tables.Groups
import OpenFiles.Proofs.Tables.References
import OpenFiles.Proofs.Tables.Rows

/-!
# The accounts between slots, groups and rows

`Accounts tables refs` says that the group arena and the system table are the
right ones for a given list of references: the members of the groups are the
handles of the list, the count of each row is the number of references that lead
to it, and no inode number has two rows. The list is a parameter, because an
operation on a whole process changes the groups one handle at a time while the
descriptor table of the process appears or disappears in one step. Between
operations the list is `Tables.references`.

Operations change the list one reference at a time. A handle joins a live group,
or leaves its group, or comes with a group of its own. What that does to the open
files is said through `file?`, which sees a group without its row number.
-/

namespace OpenFiles

namespace OpenTable

def object? (table : OpenTable) (row : RowId) : Option Object :=
  (table.holding? row).map Holding.object

variable {table : OpenTable} {row other : RowId} {holding : Holding}

theorem object?_of_holding? (found : table.holding? row = some holding) :
    table.object? row = some holding.object := by
  rw [object?, found]
  rfl

theorem object?_setRow (contents : Option Holding) (inRange : row.index < table.size)
    (other : RowId) :
    (table.setRow row contents).object? other =
      if row = other then contents.map Holding.object else table.object? other := by
  rw [object?, holding?_setRow contents inRange]
  split <;> rfl

/-- A change of a count alone leaves the objects of all rows. -/
theorem object?_setRow_handles (found : table.holding? row = some holding) (handles : Nat)
    (other : RowId) :
    (table.setRow row (some { holding with handles := handles })).object? other =
      table.object? other := by
  rw [object?_setRow _ (index_lt_of_holding? found)]
  by_cases here : row = other
  · subst here
    simp [object?, found]
  · rw [if_neg here]

/-- A handle more on a row leaves the objects of all rows. -/
theorem object?_of_retain {after : OpenTable} (retained : table.retain row = .ok after)
    (other : RowId) : after.object? other = table.object? other := by
  rw [retain] at retained
  split at retained
  · rename_i object handles found
    cases retained
    exact object?_setRow_handles found (handles + 2) other
  · cases retained

/-- A row that is left holds the object that it held. -/
theorem object?_of_dropped (positive : table.Positive) (found : table.holding? row = some holding)
    {object : Object} (held : (table.setRow row holding.dropped).object? other = some object) :
    table.object? other = some object := by
  rw [object?_setRow _ (index_lt_of_holding? found)] at held
  by_cases here : row = other
  · rw [if_pos here] at held
    obtain ⟨left, stays, same⟩ := Option.map_eq_some_iff.mp held
    have kept := Holding.object_eq_of_dropped (positive row holding found) stays
    rw [← here, object?_of_holding? found, ← kept.1, same]
  · rwa [if_neg here] at held

/-- Inode numbers stay apart in a table that holds no more objects than before. -/
theorem Separate.of_object? {after : OpenTable} (separate : table.Separate)
    (fewer : ∀ row object, after.object? row = some object → table.object? row = some object) :
    after.Separate := by
  intro row row' holding holding' found found' same
  have back : ∀ row holding, after.holding? row = some holding →
      ∃ before, table.holding? row = some before ∧ before.object = holding.object := by
    intro row holding found
    exact Option.map_eq_some_iff.mp (fewer row _ (object?_of_holding? found))
  obtain ⟨before, here, kept⟩ := back row holding found
  obtain ⟨before', here', kept'⟩ := back row' holding' found'
  exact separate row row' before before' here here' (by rw [kept, kept', same])

end OpenTable

namespace Tables

def row? (tables : Tables) (id : GroupId) : Option RowId :=
  (tables.groups.group? id).map ShareGroup.row

def file? (tables : Tables) (id : GroupId) : Option OpenFile :=
  (tables.groups.group? id).bind fun group =>
    (tables.system.object? group.row).map fun object => ⟨object, group.cursor, group.rights⟩

def inode? (tables : Tables) (id : GroupId) : Option Inode :=
  (tables.file? id).map fun file => file.object.inode

/-- Some reference of a list leads to an object with the inode number. -/
def Refers (tables : Tables) (refs : List Reference) (inode : Inode) : Prop :=
  ∃ ref ∈ refs, tables.inode? ref.2 = some inode

instance (tables : Tables) (refs : List Reference) (inode : Inode) :
    Decidable (tables.Refers refs inode) :=
  inferInstanceAs (Decidable (∃ ref ∈ refs, tables.inode? ref.2 = some inode))

def Holds (tables : Tables) (refs : List Reference) (object : Object) : Prop :=
  ∃ ref ∈ refs, ∃ file, tables.file? ref.2 = some file ∧ file.object = object

/-- The groups and the rows are right for a list of references. -/
structure Accounts (tables : Tables) (refs : List Reference) : Prop where
  distinct : refs.Nodup
  enrolled : ∀ handle id, (handle, id) ∈ refs ↔
    ∃ group, tables.groups.group? id = some group ∧ handle ∈ group.members
  populated : ∀ id group, tables.groups.group? id = some group → group.members ≠ ∅
  counted : ∀ row, tables.system.handles row = refs.countP fun ref => tables.row? ref.2 = some row
  positive : tables.system.Positive
  separate : tables.system.Separate
  tidy : tables.groups.Tidy

variable {tables after : Tables} {refs rest : List Reference}
variable {handle : Handle} {id other : GroupId} {group : ShareGroup} {file : OpenFile}

theorem row?_eq_some {row : RowId} :
    tables.row? id = some row ↔
      ∃ group, tables.groups.group? id = some group ∧ group.row = row :=
  Option.map_eq_some_iff

theorem file?_eq_some :
    tables.file? id = some file ↔
      ∃ group, tables.groups.group? id = some group ∧
        tables.system.object? group.row = some file.object ∧
        group.cursor = file.cursor ∧ group.rights = file.rights := by
  unfold file?
  cases tables.groups.group? id with
  | none => simp
  | some group =>
      obtain ⟨object, cursor, rights⟩ := file
      simp only [Option.bind_some, Option.map_eq_some_iff, OpenFile.mk.injEq, Option.some.injEq,
        exists_eq_left']
      constructor
      · rintro ⟨_, held, rfl, rfl, rfl⟩
        exact ⟨held, rfl, rfl⟩
      · rintro ⟨held, rfl, rfl⟩
        exact ⟨_, held, rfl, rfl, rfl⟩

/-- Groups that agree in row, cursor and rights, over rows that agree in their
objects, show the same file. -/
theorem file?_congr {changed : ShareGroup} (before : tables.groups.group? id = some group)
    (now : after.groups.group? id = some changed) (row : changed.row = group.row)
    (cursor : changed.cursor = group.cursor) (rights : changed.rights = group.rights)
    (object : after.system.object? group.row = tables.system.object? group.row) :
    after.file? id = tables.file? id := by
  unfold file?
  rw [before, now]
  simp only [Option.bind_some, row, cursor, rights, object]

/-- A group that is left alone, over a row that keeps its object, shows the same file. -/
theorem file?_of_group? (same : after.groups.group? id = tables.groups.group? id)
    (objects : ∀ group, tables.groups.group? id = some group →
      after.system.object? group.row = tables.system.object? group.row) :
    after.file? id = tables.file? id := by
  unfold file?
  rw [same]
  cases live : tables.groups.group? id with
  | none => rfl
  | some group => simp only [Option.bind_some, objects group live]

theorem inode?_of_file? (shown : tables.file? id = some file) :
    tables.inode? id = some file.object.inode := by
  rw [inode?, shown]
  rfl

variable {ref : Reference} {inode : Inode}

theorem holds_cons {object : Object} :
    tables.Holds (ref :: refs) object ↔
      (∃ file, tables.file? ref.2 = some file ∧ file.object = object) ∨
        tables.Holds refs object := by
  simp only [Holds, List.exists_mem_cons_iff]

theorem holds_append {object : Object} :
    tables.Holds (refs ++ rest) object ↔ tables.Holds refs object ∨ tables.Holds rest object := by
  simp only [Holds, List.mem_append, or_and_right, exists_or]

theorem holds_perm (same : refs.Perm rest) {object : Object} :
    tables.Holds refs object ↔ tables.Holds rest object := by
  simp only [Holds, same.mem_iff]

/-- Tables that show the same files lead to the same objects. -/
theorem holds_congr (files : ∀ ref ∈ refs, after.file? ref.2 = tables.file? ref.2)
    {object : Object} : after.Holds refs object ↔ tables.Holds refs object := by
  constructor
  · rintro ⟨ref, member, file, shown, same⟩
    exact ⟨ref, member, file, (files ref member).symm.trans shown, same⟩
  · rintro ⟨ref, member, file, shown, same⟩
    exact ⟨ref, member, file, (files ref member).trans shown, same⟩

/-- The inode numbers that are referred to are those of the objects that are held. -/
theorem refers_iff_holds :
    tables.Refers refs inode ↔ ∃ object, tables.Holds refs object ∧ object.inode = inode := by
  constructor
  · rintro ⟨ref, member, leads⟩
    obtain ⟨file, shown, same⟩ := Option.map_eq_some_iff.mp leads
    exact ⟨file.object, ⟨ref, member, file, shown, rfl⟩, same⟩
  · rintro ⟨object, ⟨ref, member, file, shown, rfl⟩, same⟩
    exact ⟨ref, member, (inode?_of_file? shown).trans (congrArg some same)⟩

theorem refers_cons :
    tables.Refers (ref :: refs) inode ↔
      tables.inode? ref.2 = some inode ∨ tables.Refers refs inode := by
  simp only [Refers, List.exists_mem_cons_iff]

theorem refers_append :
    tables.Refers (refs ++ rest) inode ↔ tables.Refers refs inode ∨ tables.Refers rest inode := by
  simp only [Refers, List.mem_append, or_and_right, exists_or]

/-- Tables that show the same files refer to the same inode numbers. -/
theorem refers_congr (files : ∀ ref ∈ refs, after.file? ref.2 = tables.file? ref.2) :
    after.Refers refs inode ↔ tables.Refers refs inode := by
  simp only [refers_iff_holds, holds_congr files]

namespace Accounts

theorem perm (accounts : tables.Accounts refs) {list : List Reference} (same : refs.Perm list) :
    tables.Accounts list where
  distinct := same.nodup_iff.mp accounts.distinct
  enrolled handle id := same.mem_iff.symm.trans (accounts.enrolled handle id)
  populated := accounts.populated
  counted row := (accounts.counted row).trans (same.countP_eq _)
  positive := accounts.positive
  separate := accounts.separate
  tidy := accounts.tidy

theorem live (accounts : tables.Accounts refs) (member : (handle, id) ∈ refs) :
    ∃ group, tables.groups.group? id = some group ∧ handle ∈ group.members :=
  (accounts.enrolled handle id).mp member

/-- A live group has a reference to it. -/
theorem exists_reference (accounts : tables.Accounts refs)
    (live : tables.groups.group? id = some group) : ∃ handle, (handle, id) ∈ refs := by
  obtain ⟨handle, member⟩ := OrderedMap.exists_mem_of_ne_empty (accounts.populated id group live)
  exact ⟨handle, (accounts.enrolled handle id).mpr ⟨group, live, member⟩⟩

/-- So has a group that shows a file. -/
theorem exists_reference_of_file? {file : OpenFile} (accounts : tables.Accounts refs)
    (shown : tables.file? id = some file) : ∃ handle, (handle, id) ∈ refs := by
  obtain ⟨group, live, _⟩ := file?_eq_some.mp shown
  exact accounts.exists_reference live

/-- The row of a live group is in use. -/
theorem exists_holding (accounts : tables.Accounts refs)
    (live : tables.groups.group? id = some group) :
    ∃ holding, tables.system.holding? group.row = some holding := by
  obtain ⟨handle, member⟩ := accounts.exists_reference live
  have leads : tables.row? id = some group.row := row?_eq_some.mpr ⟨group, live, rfl⟩
  have positive : 0 < tables.system.handles group.row := by
    rw [accounts.counted, List.countP_pos_iff]
    exact ⟨(handle, id), member, decide_eq_true leads⟩
  cases found : tables.system.holding? group.row with
  | none =>
      rw [OpenTable.handles_eq_zero_of_free found] at positive
      exact absurd positive (Nat.lt_irrefl 0)
  | some holding => exact ⟨holding, rfl⟩

/-- Every reference leads to an open file. -/
theorem exists_file (accounts : tables.Accounts refs) (member : (handle, id) ∈ refs) :
    ∃ file, tables.file? id = some file := by
  obtain ⟨group, live, _⟩ := accounts.live member
  obtain ⟨holding, found⟩ := accounts.exists_holding live
  exact ⟨⟨holding.object, group.cursor, group.rights⟩,
    file?_eq_some.mpr ⟨group, live, OpenTable.object?_of_holding? found, rfl, rfl⟩⟩

end Accounts

end Tables

end OpenFiles
