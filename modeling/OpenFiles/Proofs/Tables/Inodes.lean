import OpenFiles.Proofs.Tables.Entries
import OpenFiles.Service.Queries

/-!
# The inode numbers that are open

The rows in use hold the inode numbers that references lead to, each once. So the
number of rows in use is the number of open inode numbers, and the handles on a row
are the references to its number, wherever the row is and whatever the table went
through before.
-/

namespace OpenFiles

namespace OpenTable

variable {table : OpenTable} {row : RowId} {inode : Inode} {object : Object}

def inodes (table : OpenTable) : List Inode :=
  table.rows.filterMap fun contents => contents.map fun holding => holding.object.inode

theorem length_inodes (table : OpenTable) : table.inodes.length = table.used := by
  rw [inodes, List.length_filterMap_eq_countP, used]
  apply List.countP_congr
  intro contents _
  rw [Option.isSome_map]

theorem mem_inodes_iff :
    inode ∈ table.inodes ↔
      ∃ row object, table.object? row = some object ∧ object.inode = inode := by
  rw [inodes, List.mem_filterMap]
  constructor
  · rintro ⟨contents, member, number⟩
    obtain ⟨holding, rfl, rfl⟩ := Option.map_eq_some_iff.mp number
    obtain ⟨index, here⟩ := List.getElem?_of_mem member
    have found : table.holding? ⟨index⟩ = some holding := Option.join_eq_some_iff.mpr here
    exact ⟨⟨index⟩, holding.object, object?_of_holding? found, rfl⟩
  · rintro ⟨row, object, held, rfl⟩
    obtain ⟨holding, found, rfl⟩ := Option.map_eq_some_iff.mp held
    exact ⟨some holding, List.mem_of_getElem? (Option.join_eq_some_iff.mp found), rfl⟩

theorem Separate.nodup_inodes (separate : table.Separate) : table.inodes.Nodup := by
  rw [inodes, List.Nodup, List.pairwise_filterMap, List.pairwise_iff_getElem]
  intro index index' small small' before inode number inode' number' same
  obtain ⟨holding, here, rfl⟩ := Option.map_eq_some_iff.mp number
  obtain ⟨holding', here', rfl⟩ := Option.map_eq_some_iff.mp number'
  have found : table.holding? ⟨index⟩ = some holding :=
    Option.join_eq_some_iff.mpr (List.getElem?_eq_some_iff.mpr ⟨small, here⟩)
  have found' : table.holding? ⟨index'⟩ = some holding' :=
    Option.join_eq_some_iff.mpr (List.getElem?_eq_some_iff.mpr ⟨small', here'⟩)
  have rows := separate ⟨index⟩ ⟨index'⟩ holding holding' found found' same
  rw [RowId.mk.injEq] at rows
  omega

/-- No row is free exactly if as many are in use as there are. -/
theorem freeRow?_eq_none_iff : table.freeRow? = none ↔ table.used = table.size := by
  rw [freeRow?, Option.map_eq_none_iff, List.findIdx?_eq_none_iff, used, size,
    List.countP_eq_length]
  simp only [Option.isNone_eq_false_iff]

end OpenTable

namespace Tables

variable {tables : Tables} {refs : List Reference} {inode : Inode} {object : Object}

theorem Accounts.mem_inodes_iff (accounts : tables.Accounts refs) :
    inode ∈ tables.system.inodes ↔ tables.Refers refs inode := by
  rw [OpenTable.mem_inodes_iff, Tables.refers_iff_holds]
  constructor
  · rintro ⟨row, object, held, same⟩
    exact ⟨object, accounts.holds_of_object? held, same⟩
  · rintro ⟨object, ⟨ref, _, file, shown, rfl⟩, same⟩
    obtain ⟨group, _, held, _, _⟩ := file?_eq_some.mp shown
    exact ⟨group.row, file.object, held, same⟩

/-- Any list of the inode numbers that are referred to, each once, is as long as
there are rows in use. -/
theorem Accounts.length_eq_used (accounts : tables.Accounts refs) {numbers : List Inode}
    (distinct : numbers.Nodup) (same : ∀ inode, inode ∈ numbers ↔ tables.Refers refs inode) :
    numbers.length = tables.system.used := by
  have perm : numbers.Perm tables.system.inodes :=
    (List.perm_ext_iff_of_nodup distinct accounts.separate.nodup_inodes).mpr fun inode =>
      (same inode).trans accounts.mem_inodes_iff.symm
  rw [perm.length_eq, OpenTable.length_inodes]

/-- The handles on an object are the references to its inode number. -/
theorem Accounts.handlesOn_eq (accounts : tables.Accounts refs) (object : Object) :
    (tables.system.rowOf? object).elim 0 tables.system.handles =
      refs.countP fun ref => tables.inode? ref.2 = some object.inode := by
  cases known : tables.system.rowOf? object with
  | none =>
      have unreferred := accounts.rowOf?_eq_none_iff.mp known
      refine (List.countP_eq_zero.mpr fun ref member leads => unreferred ?_).symm
      exact ⟨ref, member, of_decide_eq_true leads⟩
  | some row =>
      obtain ⟨holding, found, same⟩ := OpenTable.rowOf?_eq_some known
      refine (accounts.counted row).trans (List.countP_congr ?_)
      intro ref _
      rw [decide_eq_true_eq, decide_eq_true_eq, ← same]
      exact (accounts.inode?_eq_iff found).symm

end Tables

end OpenFiles
