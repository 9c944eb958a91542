import OpenFiles.Fault
import OpenFiles.Object

/-!
# The system open table

The table has one row for each object that is open anywhere in the system. A
row in use holds the object and the number of handles on it, over all
processes. Opening an object that has a row adds a handle to that row, whatever
path led to it; the object of the first open stays. When the last handle is
dropped the row becomes free again and the object is given back, for the caller
to release.

Rows are handed out lowest first. Their number never changes.
-/

namespace OpenFiles

/-- What a row in use holds. -/
structure Holding where
  object : Object
  handles : Nat
  deriving DecidableEq

/-- The rows of the system open table; a free row holds nothing. -/
structure OpenTable where
  rows : List (Option Holding)
  deriving DecidableEq

namespace OpenTable

/-- The storage that one row takes. -/
def rowBytes : Nat := 24

/-- A table of so many free rows, if they take less than `granted` bytes. -/
def ofSize (size : Nat) (granted : Nat := allocationLimit) : Except Error OpenTable :=
  if granted ≤ rowBytes * size then .error .noMemory
  else .ok ⟨List.replicate size none⟩

def size (table : OpenTable) : Nat := table.rows.length

/-- What a row holds, if it is in use. -/
def holding? (table : OpenTable) (row : RowId) : Option Holding :=
  (table.rows[row.index]?).join

/-- The number of handles on a row; none for a free row. -/
def handles (table : OpenTable) (row : RowId) : Nat :=
  (table.holding? row).elim 0 Holding.handles

def object (table : OpenTable) (row : RowId) : Except Error Object :=
  match table.holding? row with
  | some holding => .ok holding.object
  | none => .error .badDescriptor

def holds (object : Object) (contents : Option Holding) : Bool :=
  contents.any fun holding => holding.object.same object

/-- The row that holds an object. -/
def rowOf? (table : OpenTable) (object : Object) : Option RowId :=
  (table.rows.findIdx? (holds object)).map RowId.mk

def freeRow? (table : OpenTable) : Option RowId :=
  (table.rows.findIdx? Option.isNone).map RowId.mk

def used (table : OpenTable) : Nat := table.rows.countP Option.isSome

def setRow (table : OpenTable) (row : RowId) (contents : Option Holding) : OpenTable :=
  ⟨table.rows.set row.index contents⟩

/-- Adds a handle on an object: to the row that holds it, or to the lowest free
row, which then holds it. The table is full for an object only if it has
neither. -/
def acquire (table : OpenTable) (object : Object) : Except Error (RowId × OpenTable) :=
  match table.rowOf? object with
  | some row =>
    let contents := (table.holding? row).map fun holding =>
      { holding with handles := holding.handles + 1 }
    .ok (row, table.setRow row contents)
  | none =>
    match table.freeRow? with
    | some row => .ok (row, table.setRow row (some ⟨object, 1⟩))
    | none => .error .tooManyOpenInSystem

def retain (table : OpenTable) (row : RowId) : Except Fault OpenTable :=
  match table.holding? row with
  | some ⟨object, handles + 1⟩ => .ok (table.setRow row (some ⟨object, handles + 2⟩))
  | _ => .error (.retainOfFree row)

/-- Drops a handle on a row in use. With the last one the row becomes free and
its object is answered. -/
def release (table : OpenTable) (row : RowId) : Except Fault (Option Object × OpenTable) :=
  match table.holding? row with
  | some ⟨object, 1⟩ => .ok (some object, table.setRow row none)
  | some ⟨object, handles + 2⟩ => .ok (none, table.setRow row (some ⟨object, handles + 1⟩))
  | _ => .error (.doubleRelease row)

variable {table : OpenTable} {row : RowId}

@[simp] theorem size_setRow (contents : Option Holding) :
    (table.setRow row contents).size = table.size := by
  simp [size, setRow]

theorem index_lt_of_holding? {holding : Holding} (found : table.holding? row = some holding) :
    row.index < table.size := by
  unfold holding? at found
  cases contents : table.rows[row.index]? with
  | none => simp [contents] at found
  | some _ => exact (List.getElem?_eq_some_iff.mp contents).1

theorem holding?_setRow (contents : Option Holding) (inRange : row.index < table.size)
    (other : RowId) :
    (table.setRow row contents).holding? other =
      if row = other then contents else table.holding? other := by
  unfold holding? setRow
  rw [List.getElem?_set]
  by_cases same : row = other
  · subst same
    simp only [size] at inRange
    simp [inRange]
  · have apart : row.index ≠ other.index := fun h => same (by cases row; cases other; simp_all)
    simp [same, apart]

@[simp] theorem setRow_setRow (first second : Option Holding) :
    (table.setRow row first).setRow row second = table.setRow row second := by
  simp [setRow]

end OpenTable

end OpenFiles
