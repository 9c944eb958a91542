import OpenFiles.OpenTable

/-!
# The system open table through its look-up

Acquiring a row has two ways to succeed: the object has a row already, or a free
row takes it. They are kept apart here because only the second is undone by
giving the object back to the storage. `release_of_acquire` is the round trip
that an open relies on when it finds a row but no descriptor.
-/

namespace OpenFiles

def Holding.dropped (holding : Holding) : Option Holding :=
  if holding.handles = 1 then none else some { holding with handles := holding.handles - 1 }

namespace Holding

variable {holding left : Holding}

theorem handles_dropped (holding : Holding) :
    holding.dropped.elim 0 handles = holding.handles - 1 := by
  rw [dropped]
  split
  · rw [Option.elim_none]
    omega
  · rw [Option.elim_some]

/-- What is left is the same object with a handle less, but not without handles. -/
theorem object_eq_of_dropped (positive : 0 < holding.handles)
    (stays : holding.dropped = some left) :
    left.object = holding.object ∧ 0 < left.handles := by
  rw [dropped] at stays
  split at stays
  · cases stays
  · cases stays
    refine ⟨rfl, ?_⟩
    show 0 < holding.handles - 1
    omega

end Holding

namespace OpenTable

variable {table after : OpenTable} {row other : RowId} {object : Object} {holding : Holding}

def Positive (table : OpenTable) : Prop :=
  ∀ row holding, table.holding? row = some holding → 0 < holding.handles

/-- No two rows hold objects with one inode number. -/
def Separate (table : OpenTable) : Prop :=
  ∀ row row' holding holding', table.holding? row = some holding →
    table.holding? row' = some holding' → holding.object.inode = holding'.object.inode → row = row'

theorem getElem?_of_index_lt (inRange : row.index < table.size) :
    table.rows[row.index]? = some (table.holding? row) := by
  rw [holding?, List.getElem?_eq_getElem inRange]
  rfl

theorem holding?_setRow_self (contents : Option Holding) (inRange : row.index < table.size) :
    (table.setRow row contents).holding? row = contents := by
  rw [holding?_setRow contents inRange, if_pos rfl]

/-- Counts stay positive if the one that is written is. -/
theorem Positive.setRow (positive : table.Positive) (inRange : row.index < table.size)
    {contents : Option Holding} (filled : ∀ held, contents = some held → 0 < held.handles) :
    (table.setRow row contents).Positive := by
  intro other held found
  rw [holding?_setRow contents inRange] at found
  split at found
  · exact filled held found
  · exact positive other held found

theorem rows_ofSize {size granted : Nat} (made : ofSize size granted = .ok table) :
    table.rows = List.replicate size none := by
  rw [ofSize] at made
  split at made
  · cases made
  · cases made
    rfl

theorem size_ofSize {size granted : Nat} (made : ofSize size granted = .ok table) :
    table.size = size := by
  rw [OpenTable.size, rows_ofSize made, List.length_replicate]

/-- A new table has no row in use. -/
theorem holding?_ofSize {size granted : Nat} (made : ofSize size granted = .ok table)
    (row : RowId) :
    table.holding? row = none := by
  rw [holding?, rows_ofSize made, List.getElem?_replicate]
  split <;> rfl

theorem handles_eq_zero_of_free (free : table.holding? row = none) : table.handles row = 0 := by
  rw [handles, free]
  rfl

theorem handles_of_holding? (found : table.holding? row = some holding) :
    table.handles row = holding.handles := by
  rw [handles, found]
  rfl

/-- In a table of positive counts a row without handles is free. -/
theorem Positive.handles_eq_zero_iff (positive : table.Positive) :
    table.handles row = 0 ↔ table.holding? row = none := by
  cases found : table.holding? row with
  | none => simp [handles_eq_zero_of_free found]
  | some holding =>
      have := positive row holding found
      rw [handles_of_holding? found]
      simp only [reduceCtorEq, iff_false]
      omega

/-- Writing back what a row holds changes nothing. -/
theorem setRow_self (inRange : row.index < table.size) :
    table.setRow row (table.holding? row) = table := by
  cases table with
  | mk rows =>
      have here := getElem?_of_index_lt inRange
      obtain ⟨small, value⟩ := List.getElem?_eq_some_iff.mp here
      rw [setRow, ← value, List.set_getElem_self]

theorem handles_setRow (contents : Option Holding) (inRange : row.index < table.size)
    (other : RowId) :
    (table.setRow row contents).handles other =
      if row = other then contents.elim 0 Holding.handles else table.handles other := by
  rw [handles, holding?_setRow contents inRange, handles]
  split <;> rfl

/-- The row of an object holds one with the same inode number. -/
theorem rowOf?_eq_some (found : table.rowOf? object = some row) :
    ∃ holding, table.holding? row = some holding ∧ holding.object.inode = object.inode := by
  obtain ⟨index, position, rfl⟩ := Option.map_eq_some_iff.mp found
  obtain ⟨small, holds, _⟩ := List.findIdx?_eq_some_iff_getElem.mp position
  obtain ⟨holding, contents, same⟩ := (Option.any_eq_true _ _).mp holds
  refine ⟨holding, ?_, Object.same_iff.mp same⟩
  rw [holding?, List.getElem?_eq_getElem small, contents]
  rfl

/-- An object without a row has an inode number that no row knows. -/
theorem rowOf?_eq_none (missing : table.rowOf? object = none)
    (found : table.holding? row = some holding) : holding.object.inode ≠ object.inode := by
  intro same
  have nowhere := List.findIdx?_eq_none_iff.mp (Option.map_eq_none_iff.mp missing)
  have member : some holding ∈ table.rows :=
    List.mem_of_getElem? (Option.join_eq_some_iff.mp found)
  have differs : holding.object.same object = false := nowhere _ member
  rw [Object.same_iff.mpr same] at differs
  cases differs

/-- In a table that keeps inode numbers apart, an object has the row that holds
its inode number. -/
theorem Separate.rowOf?_eq_some (separate : table.Separate)
    (found : table.holding? row = some holding) (same : holding.object.inode = object.inode) :
    table.rowOf? object = some row := by
  cases look : table.rowOf? object with
  | none => exact absurd same (rowOf?_eq_none look found)
  | some row' =>
      obtain ⟨holding', found', same'⟩ := OpenTable.rowOf?_eq_some look
      rw [separate row' row holding' holding found' found (same'.trans same.symm)]

theorem freeRow?_eq_some (found : table.freeRow? = some row) :
    row.index < table.size ∧ table.holding? row = none := by
  obtain ⟨index, position, rfl⟩ := Option.map_eq_some_iff.mp found
  obtain ⟨small, isNone, _⟩ := List.findIdx?_eq_some_iff_getElem.mp position
  refine ⟨small, ?_⟩
  rw [holding?, List.getElem?_eq_getElem small, Option.isNone_iff_eq_none.mp isNone]
  rfl

inductive Acquired (table : OpenTable) (object : Object) : RowId → OpenTable → Prop
  | coalesced {row : RowId} {holding : Holding} (known : table.rowOf? object = some row)
      (found : table.holding? row = some holding) (same : holding.object.inode = object.inode) :
      Acquired table object row
        (table.setRow row (some { holding with handles := holding.handles + 1 }))
  | fresh {row : RowId} (unknown : table.rowOf? object = none) (inRange : row.index < table.size)
      (free : table.holding? row = none) :
      Acquired table object row (table.setRow row (some ⟨object, 1⟩))

theorem acquired_of_acquire (success : table.acquire object = .ok (row, after)) :
    Acquired table object row after := by
  rw [acquire] at success
  cases known : table.rowOf? object with
  | some row' =>
      obtain ⟨holding, found, same⟩ := rowOf?_eq_some known
      simp only [known, found, Option.map_some, Except.ok.injEq, Prod.mk.injEq] at success
      obtain ⟨rfl, rfl⟩ := success
      exact .coalesced known found same
  | none =>
      cases vacant : table.freeRow? with
      | some row' =>
          obtain ⟨inRange, free⟩ := freeRow?_eq_some vacant
          simp only [known, vacant, Except.ok.injEq, Prod.mk.injEq] at success
          obtain ⟨rfl, rfl⟩ := success
          exact .fresh known inRange free
      | none =>
          simp only [known, vacant] at success
          cases success

/-- A table is full for an object that no row holds, once no row is free. -/
theorem acquire_eq_error_iff {reason : Error} :
    table.acquire object = .error reason ↔
      reason = .tooManyOpenInSystem ∧ table.rowOf? object = none ∧ table.freeRow? = none := by
  rw [acquire]
  cases table.rowOf? object with
  | some row => simp
  | none => cases table.freeRow? <;> simp [eq_comm]

theorem retain_of_positive (positive : table.Positive) (found : table.holding? row = some holding) :
    table.retain row =
      .ok (table.setRow row (some { holding with handles := holding.handles + 1 })) := by
  have := positive row holding found
  obtain ⟨object, handles⟩ := holding
  obtain ⟨count, rfl⟩ := Nat.exists_eq_succ_of_ne_zero (Nat.ne_of_gt this)
  simp only [retain, found]

/-- Dropping a handle hands back the object with the last one. -/
theorem release_of_positive (positive : table.Positive)
    (found : table.holding? row = some holding) :
    table.release row =
      .ok (if holding.handles = 1 then some holding.object else none,
        table.setRow row holding.dropped) := by
  have := positive row holding found
  obtain ⟨object, handles⟩ := holding
  rw [release, Holding.dropped]
  match handles with
  | 0 => exact absurd this (Nat.lt_irrefl 0)
  | 1 => simp only [found, if_true]
  | count + 2 => simp [found]

/-- The number of rows never changes. -/
theorem size_of_retain (retained : table.retain row = .ok after) : after.size = table.size := by
  rw [retain] at retained
  split at retained
  · cases retained
    exact size_setRow _
  · cases retained

theorem size_of_release {last : Option Object} (released : table.release row = .ok (last, after)) :
    after.size = table.size := by
  rw [release] at released
  split at released
  · cases released
    exact size_setRow _
  · cases released
    exact size_setRow _
  · cases released

theorem Acquired.size (acquired : Acquired table object row after) : after.size = table.size := by
  cases acquired with
  | coalesced known found same => exact size_setRow _
  | fresh unknown inRange free => exact size_setRow _

theorem Acquired.positive (acquired : Acquired table object row after)
    (positive : table.Positive) : after.Positive := by
  cases acquired with
  | coalesced known found same =>
      apply positive.setRow (index_lt_of_holding? found)
      rintro held ⟨⟩
      exact Nat.succ_pos _
  | fresh unknown inRange free =>
      apply positive.setRow inRange
      rintro held ⟨⟩
      exact Nat.succ_pos 0

/-- Dropping the handle that was just acquired restores the table, and hands the
object back exactly if it had no row before. -/
theorem release_of_acquire (positive : table.Positive)
    (success : table.acquire object = .ok (row, after)) :
    after.release row =
      .ok (if table.rowOf? object = none then some object else none, table) := by
  have acquired := acquired_of_acquire success
  have positiveAfter := acquired.positive positive
  cases acquired with
  | @coalesced holding known found same =>
      have inRange := index_lt_of_holding? found
      have held :=
        holding?_setRow_self (some { holding with handles := holding.handles + 1 }) inRange
      have many : holding.handles ≠ 0 := Nat.ne_of_gt (positive row holding found)
      rw [release_of_positive positiveAfter held, setRow_setRow, known]
      simp only [Holding.dropped, Nat.add_eq_right, many, if_false, Nat.add_sub_cancel,
        reduceCtorEq]
      rw [← found, setRow_self inRange]
  | fresh unknown inRange free =>
      have held := holding?_setRow_self (some ⟨object, 1⟩) inRange
      rw [release_of_positive positiveAfter held, setRow_setRow, if_pos unknown]
      simp only [Holding.dropped, if_true]
      rw [← free, setRow_self inRange]

end OpenTable

end OpenFiles
