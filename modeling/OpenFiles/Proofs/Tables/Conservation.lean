import OpenFiles.Proofs.Tables.Inodes

/-!
# What the system table keeps, whoever calls it

The rest of the development calls the table with the rows that live groups lead to. Here the
caller may do anything: acquire any object, and retain or release any row, in any order, as often
as it likes. A row that it was given long ago may be free by now, or hold another object. A call
on a free row is a fault, and a fault is survived by leaving the table as it was.

A `Ledger` is a table together with what happened on the way to it: the objects that were given
back, each to be closed, and the objects for which a free row was taken. `Entry` lists the four
ways in which one call can continue the ledger, and everything about runs follows from it. That no
object is closed twice or forgotten is the balance of the two lists with the rows in use.
-/

namespace OpenFiles

namespace OpenTable

inductive Operation where
  | acquire (object : Object)
  | retain (row : RowId)
  | release (row : RowId)
  deriving DecidableEq

/-- A table, the objects that were closed on the way to it, and those that were given a row. -/
structure Ledger where
  table : OpenTable
  closed : List Object
  allocated : List Object
  deriving DecidableEq

/-- Serves one call. A call that is refused or faults leaves the table as it was. -/
def serve (table : OpenTable) : Operation → Ledger
  | .acquire object =>
    match table.acquire object with
    | .ok (row, after) => ⟨after, [], if table.holding? row = none then [object] else []⟩
    | .error _ => ⟨table, [], []⟩
  | .retain row =>
    match table.retain row with
    | .ok after => ⟨after, [], []⟩
    | .error _ => ⟨table, [], []⟩
  | .release row =>
    match table.release row with
    | .ok (last, after) => ⟨after, last.toList, []⟩
    | .error _ => ⟨table, [], []⟩

def run (table : OpenTable) : List Operation → Ledger
  | [] => ⟨table, [], []⟩
  | operation :: others =>
    let first := table.serve operation
    let rest := first.table.run others
    ⟨rest.table, first.closed ++ rest.closed, first.allocated ++ rest.allocated⟩

def LowestFree (table : OpenTable) (row : RowId) : Prop :=
  (row.index < table.size ∧ table.holding? row = none) ∧
    ∀ lower : RowId, lower.index < row.index → table.holding? lower ≠ none

variable {table after : OpenTable} {row : RowId} {object : Object} {holding : Holding}
variable {inode : Inode} {ledger : Ledger}

theorem holding?_eq_none_iff_isNone {index : Nat} (small : index < table.rows.length) :
    table.holding? ⟨index⟩ = none ↔ table.rows[index].isNone = true := by
  rw [holding?, List.getElem?_eq_getElem small, Option.join_some, Option.isNone_iff_eq_none]

theorem freeRow?_eq_some_iff : table.freeRow? = some row ↔ table.LowestFree row := by
  obtain ⟨index⟩ := row
  have first : table.freeRow? = some ⟨index⟩ ↔ table.rows.findIdx? Option.isNone = some index := by
    simp [freeRow?]
  rw [first, List.findIdx?_eq_some_iff_getElem]
  constructor
  · rintro ⟨small, vacant, used⟩
    refine ⟨⟨small, (holding?_eq_none_iff_isNone small).mpr vacant⟩, ?_⟩
    rintro ⟨lower⟩ below free
    exact used lower below ((holding?_eq_none_iff_isNone (Nat.lt_trans below small)).mp free)
  · rintro ⟨⟨small, vacant⟩, used⟩
    refine ⟨small, (holding?_eq_none_iff_isNone small).mp vacant, fun lower below free => ?_⟩
    exact used ⟨lower⟩ below ((holding?_eq_none_iff_isNone (Nat.lt_trans below small)).mpr free)

/-- No row is free if every row is in use. -/
theorem freeRow?_eq_none_iff_holding? :
    table.freeRow? = none ↔ ∀ row : RowId, row.index < table.size → table.holding? row ≠ none := by
  rw [freeRow?, Option.map_eq_none_iff, List.findIdx?_eq_none_iff]
  constructor
  · intro used row inRange free
    have vacant := (holding?_eq_none_iff_isNone inRange).mp free
    rw [used _ (List.getElem_mem inRange)] at vacant
    cases vacant
  · intro used contents member
    obtain ⟨index, small, rfl⟩ := List.getElem_of_mem member
    cases vacant : table.rows[index].isNone with
    | false => rfl
    | true => exact absurd ((holding?_eq_none_iff_isNone small).mpr vacant) (used ⟨index⟩ small)

/-- An object has no row if its inode number is not open. -/
theorem rowOf?_eq_none_iff_inodes : table.rowOf? object = none ↔ object.inode ∉ table.inodes := by
  constructor
  · intro unknown known
    obtain ⟨row, held, here, same⟩ := mem_inodes_iff.mp known
    obtain ⟨holding, found, rfl⟩ := Option.map_eq_some_iff.mp here
    exact rowOf?_eq_none unknown found same
  · intro unknown
    cases look : table.rowOf? object with
    | none => rfl
    | some row =>
        obtain ⟨holding, found, same⟩ := rowOf?_eq_some look
        exact absurd (mem_inodes_iff.mpr ⟨row, _, object?_of_holding? found, same⟩) unknown

/-- How one call continues the ledger: it changes nothing, adds a handle to a row in use, gives a
free row to an object that has none, or drops a handle of a row in use. -/
inductive Entry (table : OpenTable) : Ledger → Prop
  | idle : Entry table ⟨table, [], []⟩
  | raised {row : RowId} {holding : Holding} (found : table.holding? row = some holding) :
      Entry table
        ⟨table.setRow row (some { holding with handles := holding.handles + 1 }), [], []⟩
  | taken {row : RowId} {object : Object} (unknown : table.rowOf? object = none)
      (inRange : row.index < table.size) (free : table.holding? row = none) :
      Entry table ⟨table.setRow row (some ⟨object, 1⟩), [], [object]⟩
  | lowered {row : RowId} {holding : Holding} (found : table.holding? row = some holding) :
      Entry table
        ⟨table.setRow row holding.dropped, if holding.handles = 1 then [holding.object] else [], []⟩

theorem retain_of_free (free : table.holding? row = none) :
    table.retain row = .error (.retainOfFree row) := by
  rw [retain, free]

theorem release_of_free (free : table.holding? row = none) :
    table.release row = .error (.doubleRelease row) := by
  rw [release, free]

/-- Whatever is called, it is one of the four. -/
theorem entry_serve (positive : table.Positive) (operation : Operation) :
    Entry table (table.serve operation) := by
  cases operation with
  | acquire object =>
      rw [serve]
      cases outcome : table.acquire object with
      | error reason => exact .idle
      | ok answer =>
          obtain ⟨row, after⟩ := answer
          cases acquired_of_acquire outcome with
          | coalesced known found same =>
              dsimp only
              rw [if_neg (by rw [found]; exact Option.some_ne_none _)]
              exact .raised found
          | fresh unknown inRange free =>
              dsimp only
              rw [if_pos free]
              exact .taken unknown inRange free
  | retain row =>
      rw [serve]
      cases found : table.holding? row with
      | none =>
          rw [retain_of_free found]
          exact .idle
      | some holding =>
          rw [retain_of_positive positive found]
          exact .raised found
  | release row =>
      rw [serve]
      cases found : table.holding? row with
      | none =>
          rw [release_of_free found]
          exact .idle
      | some holding =>
          rw [release_of_positive positive found]
          dsimp only
          have closed : (if holding.handles = 1 then some holding.object else none).toList =
              if holding.handles = 1 then [holding.object] else [] := by
            split <;> rfl
          rw [closed]
          exact .lowered found

namespace Entry

theorem size (entry : Entry table ledger) : ledger.table.size = table.size := by
  cases entry with
  | idle => rfl
  | raised found => exact size_setRow _
  | taken unknown inRange free => exact size_setRow _
  | lowered found => exact size_setRow _

theorem positive (entry : Entry table ledger) (positive : table.Positive) :
    ledger.table.Positive := by
  cases entry with
  | idle => exact positive
  | raised found =>
      apply positive.setRow (index_lt_of_holding? found)
      rintro held ⟨⟩
      exact Nat.succ_pos _
  | taken unknown inRange free => exact (Acquired.fresh unknown inRange free).positive positive
  | @lowered row holding found =>
      apply positive.setRow (index_lt_of_holding? found)
      intro left stays
      exact (Holding.object_eq_of_dropped (positive row holding found) stays).2

theorem separate (entry : Entry table ledger) (positive : table.Positive)
    (separate : table.Separate) : ledger.table.Separate := by
  cases entry with
  | idle => exact separate
  | raised found =>
      apply separate.of_object?
      intro other object held
      exact (object?_setRow_handles found _ other).symm.trans held
  | taken unknown inRange free => exact (Acquired.fresh unknown inRange free).separate separate
  | lowered found => exact separate.of_object? fun other object => object?_of_dropped positive found

end Entry

/-- The open inode numbers are those of the objects in the rows. -/
theorem mem_inodes_congr (same : ∀ row, after.object? row = table.object? row) :
    inode ∈ after.inodes ↔ inode ∈ table.inodes := by
  simp only [mem_inodes_iff, same]

theorem mem_inodes_of_holding? (found : table.holding? row = some holding) :
    holding.object.inode ∈ table.inodes :=
  mem_inodes_iff.mpr ⟨row, holding.object, object?_of_holding? found, rfl⟩

/-- Giving a free row to an object opens its inode number. -/
theorem mem_inodes_taken (inRange : row.index < table.size) (free : table.holding? row = none) :
    inode ∈ (table.setRow row (some ⟨object, 1⟩)).inodes ↔
      object.inode = inode ∨ inode ∈ table.inodes := by
  simp only [mem_inodes_iff, object?_setRow _ inRange]
  constructor
  · rintro ⟨other, held, here, number⟩
    split at here
    · cases here
      exact .inl number
    · exact .inr ⟨other, held, here, number⟩
  · rintro (number | ⟨other, held, here, number⟩)
    · exact ⟨row, object, by rw [if_pos rfl]; rfl, number⟩
    · refine ⟨other, held, ?_, number⟩
      have apart : row ≠ other := by
        rintro rfl
        rw [object?, free] at here
        cases here
      rw [if_neg apart]
      exact here

/-- Emptying a row ends its inode number, which no other row has. -/
theorem mem_inodes_emptied (separate : table.Separate)
    (found : table.holding? row = some holding) :
    inode ∈ (table.setRow row none).inodes ↔
      holding.object.inode ≠ inode ∧ inode ∈ table.inodes := by
  simp only [mem_inodes_iff, object?_setRow _ (index_lt_of_holding? found)]
  constructor
  · rintro ⟨other, held, here, rfl⟩
    split at here
    · cases here
    · rename_i apart
      obtain ⟨holding', found', rfl⟩ := Option.map_eq_some_iff.mp here
      exact ⟨fun same => apart (separate row other holding holding' found found' same),
        other, _, here, rfl⟩
  · rintro ⟨ends, other, held, here, rfl⟩
    refine ⟨other, held, ?_, rfl⟩
    have apart : row ≠ other := by
      rintro rfl
      rw [object?_of_holding? found, Option.some.injEq] at here
      exact ends (congrArg Object.inode here)
    rw [if_neg apart]
    exact here

/-- Between a table and a ledger that continues it, an inode number was closed as often as it was
open in the table or was given a row, but for a row that still holds it. -/
def Balanced (table : OpenTable) (ledger : Ledger) (inode : Inode) : Prop :=
  (ledger.closed.countP fun object => object.inode = inode) +
      (if inode ∈ ledger.table.inodes then 1 else 0) =
    (ledger.allocated.countP fun object => object.inode = inode) +
      if inode ∈ table.inodes then 1 else 0

theorem Balanced.trans {later : Ledger} (first : Balanced table ledger inode)
    (rest : Balanced ledger.table later inode) :
    Balanced table ⟨later.table, ledger.closed ++ later.closed, ledger.allocated ++ later.allocated⟩
      inode := by
  rw [Balanced] at first rest
  change (ledger.closed ++ later.closed).countP _ + (if inode ∈ later.table.inodes then 1 else 0) =
    (ledger.allocated ++ later.allocated).countP _ + if inode ∈ table.inodes then 1 else 0
  rw [List.countP_append, List.countP_append]
  omega

theorem Entry.balanced (entry : Entry table ledger) (separate : table.Separate) (inode : Inode) :
    Balanced table ledger inode := by
  cases entry with
  | idle => rfl
  | raised found => simp only [Balanced, mem_inodes_congr (object?_setRow_handles found _)]
  | @taken row object unknown inRange free =>
      have fresh := rowOf?_eq_none_iff_inodes.mp unknown
      simp only [Balanced, mem_inodes_taken inRange free]
      by_cases here : object.inode = inode
      · subst here
        simp [fresh]
      · simp [here]
  | @lowered row holding found =>
      -- Only the last handle takes the inode number with it, and closes it once.
      by_cases last : holding.handles = 1
      · have emptied : holding.dropped = none := if_pos last
        have known := mem_inodes_of_holding? found
        simp only [Balanced, last, emptied, if_true, mem_inodes_emptied separate found]
        by_cases here : holding.object.inode = inode
        · subst here
          simp [known]
        · simp [here]
      · have left : holding.dropped = some { holding with handles := holding.handles - 1 } :=
          if_neg last
        rw [left]
        simp only [Balanced, last, if_false, mem_inodes_congr (object?_setRow_handles found _)]

section Runs

variable (positive : table.Positive) (history : List Operation)
include positive

theorem size_run : (table.run history).table.size = table.size := by
  induction history generalizing table with
  | nil => rfl
  | cons operation others ih =>
      have entry := entry_serve positive operation
      exact (ih (entry.positive positive)).trans entry.size

theorem positive_run : (table.run history).table.Positive := by
  induction history generalizing table with
  | nil => exact positive
  | cons operation others ih => exact ih ((entry_serve positive operation).positive positive)

theorem separate_run (separate : table.Separate) : (table.run history).table.Separate := by
  induction history generalizing table with
  | nil => exact separate
  | cons operation others ih =>
      have entry := entry_serve positive operation
      exact ih (entry.positive positive) (entry.separate positive separate)

/-- The balance of one call adds up over a run. -/
theorem balanced_run (separate : table.Separate) (inode : Inode) :
    Balanced table (table.run history) inode := by
  induction history generalizing table with
  | nil => rfl
  | cons operation others ih =>
      have entry := entry_serve positive operation
      exact (entry.balanced separate inode).trans
        (ih (entry.positive positive) (entry.separate positive separate))

end Runs

/-- What holds of a table of any size after any run of calls, with any rows. A row has no handle
exactly if it is free, and no two rows hold one object. An object is acquired at the row that
holds it, else at the lowest free row, and is refused exactly if there is neither. To retain or
release a free row is a fault, and in a row in use it is one handle more or less. Each inode number
was closed as often as it was given a row, but for the row that holds it now. -/
theorem conserved {size granted : Nat} (made : ofSize size granted = .ok table)
    (history : List Operation) :
    let ledger := table.run history
    (∀ row, ledger.table.handles row = 0 ↔ ledger.table.object? row = none) ∧
      ledger.table.Separate ∧
      (∀ object,
        (∀ row holding, ledger.table.holding? row = some holding →
          holding.object.inode = object.inode →
          ledger.table.acquire object = .ok (row,
            ledger.table.setRow row (some { holding with handles := holding.handles + 1 }))) ∧
        (∀ row, object.inode ∉ ledger.table.inodes → ledger.table.LowestFree row →
          ledger.table.acquire object =
            .ok (row, ledger.table.setRow row (some ⟨object, 1⟩))) ∧
        ∀ reason, ledger.table.acquire object = .error reason ↔
          reason = .tooManyOpenInSystem ∧ object.inode ∉ ledger.table.inodes ∧
            ∀ row : RowId, row.index < size → ledger.table.object? row ≠ none) ∧
      (∀ row,
        (ledger.table.holding? row = none →
          ledger.table.retain row = .error (.retainOfFree row) ∧
            ledger.table.release row = .error (.doubleRelease row)) ∧
        ∀ holding, ledger.table.holding? row = some holding →
          ledger.table.retain row = .ok
              (ledger.table.setRow row (some { holding with handles := holding.handles + 1 })) ∧
            ledger.table.release row = .ok
              (if holding.handles = 1 then some holding.object else none,
                ledger.table.setRow row holding.dropped)) ∧
      ∀ inode, (ledger.closed.countP fun object => object.inode = inode) +
          (if inode ∈ ledger.table.inodes then 1 else 0) =
        ledger.allocated.countP fun object => object.inode = inode := by
  intro ledger
  have free := holding?_ofSize made
  have positiveBefore : table.Positive := fun row holding found => by
    rw [free] at found
    cases found
  have separateBefore : table.Separate := fun row _ holding _ found => by
    rw [free] at found
    cases found
  have positive : ledger.table.Positive := positive_run positiveBefore history
  have separate : ledger.table.Separate := separate_run positiveBefore history separateBefore
  have sameSize : ledger.table.size = size :=
    (size_run positiveBefore history).trans (size_ofSize made)
  refine ⟨fun row => ?_, separate, fun object => ⟨?_, ?_, fun reason => ?_⟩, fun row => ?_,
    fun inode => ?_⟩
  · rw [positive.handles_eq_zero_iff, object?, Option.map_eq_none_iff]
  · intro row holding found same
    rw [acquire, separate.rowOf?_eq_some found same]
    dsimp only
    rw [found, Option.map_some]
  · intro row unknown lowest
    rw [acquire, rowOf?_eq_none_iff_inodes.mpr unknown, freeRow?_eq_some_iff.mpr lowest]
  · rw [acquire_eq_error_iff, rowOf?_eq_none_iff_inodes, freeRow?_eq_none_iff_holding?, sameSize]
    simp only [object?, ne_eq, Option.map_eq_none_iff]
  · exact ⟨fun vacant => ⟨retain_of_free vacant, release_of_free vacant⟩, fun holding found =>
      ⟨retain_of_positive positive found, release_of_positive positive found⟩⟩
  · have balance := balanced_run positiveBefore history separateBefore inode
    have unopened : inode ∉ table.inodes := fun known => by
      obtain ⟨row, object, held, _⟩ := mem_inodes_iff.mp known
      rw [object?, free] at held
      cases held
    rwa [Balanced, if_neg unopened, Nat.add_zero] at balance

/-- Two rows: the first is released once too often, and then is given to another object, which a
release with the old name closes. -/
theorem conserved_through_stale_names :
    let a : Object := ⟨⟨1, by decide⟩, .regular, ⟨0⟩⟩
    let b : Object := ⟨⟨2, by decide⟩, .regular, ⟨1⟩⟩
    let c : Object := ⟨⟨3, by decide⟩, .regular, ⟨2⟩⟩
    let table : OpenTable := ⟨[none, none]⟩
    let history : List Operation :=
      [.acquire a, .acquire b, .acquire a, .release ⟨0⟩, .release ⟨0⟩, .release ⟨0⟩, .retain ⟨0⟩,
        .acquire c, .release ⟨0⟩, .retain ⟨1⟩]
    let ledger := table.run history
    ledger = ⟨⟨[none, some ⟨b, 2⟩]⟩, [a, c], [a, b, c]⟩ ∧
      ledger.table.acquire a = .ok (⟨0⟩, ledger.table.setRow ⟨0⟩ (some ⟨a, 1⟩)) ∧
      (ledger.closed.countP fun closed => closed.inode = c.inode) +
          (if c.inode ∈ ledger.table.inodes then 1 else 0) =
        ledger.allocated.countP fun allocated => allocated.inode = c.inode := by
  intro a b c table history ledger
  have made : ofSize 2 = .ok table := rfl
  have served : ledger = ⟨⟨[none, some ⟨b, 2⟩]⟩, [a, c], [a, b, c]⟩ := by decide
  obtain ⟨_, _, acquires, _, balance⟩ := conserved made history
  refine ⟨served, (acquires a).2.1 ⟨0⟩ ?_ ?_, balance c.inode⟩
  · change a.inode ∉ ledger.table.inodes
    rw [served]
    decide
  · change ledger.table.LowestFree ⟨0⟩
    rw [served]
    exact ⟨by decide, fun lower below => absurd below (Nat.not_lt_zero _)⟩

end OpenTable

end OpenFiles
