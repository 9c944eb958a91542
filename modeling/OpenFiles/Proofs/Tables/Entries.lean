import OpenFiles.Proofs.Tables.Moves

/-!
# Opens and seeks in the tables

An open brings a handle with a group of its own. The row of that group holds the
object that was opened or, if the inode number was open already, the object of the
first open; `Entering` says so, and that no other open file notices.

`Repositioning` is the move of one cursor. It is seen through the one group alone,
by all members of it.
-/

namespace OpenFiles

namespace OpenTable

variable {table after : OpenTable} {row : RowId} {object : Object}

/-- An acquisition adds one handle, to its row. -/
theorem Acquired.handles (acquired : Acquired table object row after) (other : RowId) :
    after.handles other = table.handles other + if row = other then 1 else 0 := by
  cases acquired with
  | @coalesced holding known found same =>
      have handles := handles_setRow (some { holding with handles := holding.handles + 1 })
        (index_lt_of_holding? found) other
      refine handles.trans ?_
      by_cases here : row = other
      · subst here
        simp [handles_of_holding? found]
      · simp [here]
  | fresh unknown inRange free =>
      refine (handles_setRow (some ⟨object, 1⟩) inRange other).trans ?_
      by_cases here : row = other
      · subst here
        simp [handles_eq_zero_of_free free]
      · simp [here]

/-- An acquisition leaves every object where it is. -/
theorem Acquired.object?_of_some (acquired : Acquired table object row after) {other : RowId}
    {held : Object} (found : table.object? other = some held) :
    after.object? other = some held := by
  cases acquired with
  | @coalesced holding known here same =>
      exact (object?_setRow_handles here (holding.handles + 1) other).trans found
  | fresh unknown inRange free =>
      rw [object?_setRow _ inRange]
      by_cases here : row = other
      · subst here
        simp [object?, free] at found
      · rwa [if_neg here]

/-- The acquired row holds the object, or the one that it held already. -/
theorem Acquired.object? (acquired : Acquired table object row after) :
    ∃ held, after.object? row = some held ∧ held.inode = object.inode ∧
      (table.rowOf? object = none ∧ held = object ∨ table.object? row = some held) := by
  cases acquired with
  | @coalesced holding known found same =>
      have kept := object?_of_holding? found
      exact ⟨holding.object, (object?_setRow_handles found (holding.handles + 1) row).trans kept,
        same, .inr kept⟩
  | fresh unknown inRange free =>
      refine ⟨object, ?_, rfl, .inl ⟨unknown, rfl⟩⟩
      rw [object?_setRow _ inRange, if_pos rfl]
      rfl

theorem Acquired.separate (acquired : Acquired table object row after)
    (separate : table.Separate) : after.Separate := by
  cases acquired with
  | @coalesced holding known found same =>
      apply separate.of_object?
      intro other _ held
      exact (object?_setRow_handles found (holding.handles + 1) other).symm.trans held
  | fresh unknown inRange free =>
      intro first second holding holding' found found' same
      rw [holding?_setRow _ inRange] at found found'
      by_cases here : row = first
      · rw [if_pos here, Option.some.injEq] at found
        by_cases there : row = second
        · exact here.symm.trans there
        · rw [if_neg there] at found'
          have inode : holding'.object.inode = object.inode := by
            rw [← same, ← found]
          exact absurd inode (rowOf?_eq_none unknown found')
      · rw [if_neg here] at found
        by_cases there : row = second
        · rw [if_pos there, Option.some.injEq] at found'
          have inode : holding.object.inode = object.inode := by
            rw [same, ← found']
          exact absurd inode (rowOf?_eq_none unknown found)
        · rw [if_neg there] at found'
          exact separate first second holding holding' found found' same

end OpenTable

namespace Tables

variable {tables : Tables} {refs : List Reference} {handle : Handle} {id : GroupId}
variable {object : Object} {row : RowId} {system : OpenTable}

/-- A row in use has a reference that leads to it. -/
theorem Accounts.exists_reference_of_holding? (accounts : tables.Accounts refs)
    (found : tables.system.holding? row = some holding) :
    ∃ ref ∈ refs, tables.row? ref.2 = some row := by
  have counted := accounts.counted row
  have positive := accounts.positive row holding found
  rw [OpenTable.handles_of_holding? found] at counted
  rw [counted, List.countP_pos_iff] at positive
  obtain ⟨ref, member, leads⟩ := positive
  exact ⟨ref, member, of_decide_eq_true leads⟩

/-- No row holds an object exactly if no reference is on its inode number. -/
theorem Accounts.rowOf?_eq_none_iff (accounts : tables.Accounts refs) :
    tables.system.rowOf? object = none ↔ ¬ tables.Refers refs object.inode := by
  constructor
  · rintro unknown ⟨ref, member, leads⟩
    obtain ⟨file, shown, inode⟩ := Option.map_eq_some_iff.mp leads
    obtain ⟨group, live, held, _, _⟩ := file?_eq_some.mp shown
    obtain ⟨holding, found, same⟩ := Option.map_eq_some_iff.mp held
    exact OpenTable.rowOf?_eq_none unknown found (by rw [same, inode])
  · intro unreferred
    cases known : tables.system.rowOf? object with
    | none => rfl
    | some row =>
        obtain ⟨holding, found, same⟩ := OpenTable.rowOf?_eq_some known
        obtain ⟨ref, member, leads⟩ := accounts.exists_reference_of_holding? found
        refine absurd ⟨ref, member, ?_⟩ unreferred
        rw [← same]
        exact (accounts.inode?_eq_iff found).mpr leads

/-- An object that a row holds is held by a reference. -/
theorem Accounts.holds_of_object? (accounts : tables.Accounts refs)
    (held : tables.system.object? row = some object) : tables.Holds refs object := by
  obtain ⟨holding, found, rfl⟩ := Option.map_eq_some_iff.mp held
  obtain ⟨ref, member, leads⟩ := accounts.exists_reference_of_holding? found
  obtain ⟨group, live, rfl⟩ := row?_eq_some.mp leads
  exact ⟨ref, member, ⟨holding.object, group.cursor, group.rights⟩,
    file?_eq_some.mpr ⟨group, live, held, rfl, rfl⟩, rfl⟩

/-- What an open that finds a row does to the tables when the accounts are right. -/
structure Entering (tables : Tables) (object : Object) (cursor : Nat) (rights : Rights)
    (handle : Handle) (refs : List Reference) (id : GroupId) (after : Tables) : Prop where
  processes : after.processes = tables.processes
  size : after.system.size = tables.system.size
  accounts : after.Accounts ((handle, id) :: refs)
  unused : ∀ ref ∈ refs, ref.2 ≠ id
  files : ∀ ref ∈ refs, after.file? ref.2 = tables.file? ref.2
  shown : ∃ held, after.file? id = some ⟨held, cursor, rights⟩ ∧ held.inode = object.inode ∧
    (¬ tables.Refers refs object.inode ∧ held = object ∨ tables.Holds refs held)

def entered (tables : Tables) (system : OpenTable) (row : RowId) (cursor : Nat) (rights : Rights)
    (handle : Handle) : Tables where
  system := system
  groups := (tables.groups.found row cursor rights handle).2
  processes := tables.processes

/-- The new group leads to the row of the object, and the others lead where they led. -/
theorem row?_entered (tidy : tables.groups.Tidy) (system : OpenTable) (row : RowId) (cursor : Nat)
    (rights : Rights) (handle : Handle) (other : GroupId) :
    (tables.entered system row cursor rights handle).row? other =
      if (tables.groups.found row cursor rights handle).1 = other then some row
      else tables.row? other := by
  obtain ⟨_, look, _⟩ := tidy.found row cursor rights handle
  show ((tables.groups.found row cursor rights handle).2.group? other).map ShareGroup.row = _
  rw [look, row?]
  split <;> rfl

theorem Accounts.file?_entered (accounts : tables.Accounts refs)
    (acquired : OpenTable.Acquired tables.system object row system) (cursor : Nat)
    (rights : Rights) (handle : Handle) {ref : Reference} (member : ref ∈ refs) :
    ref.2 ≠ (tables.groups.found row cursor rights handle).1 ∧
      (tables.entered system row cursor rights handle).file? ref.2 = tables.file? ref.2 := by
  obtain ⟨fresh, look, _⟩ := accounts.tidy.found row cursor rights handle
  obtain ⟨group, live, _⟩ := accounts.live member
  have apart : ref.2 ≠ (tables.groups.found row cursor rights handle).1 := by
    intro same
    rw [same, fresh] at live
    cases live
  have there := look ref.2
  rw [if_neg apart.symm] at there
  refine ⟨apart, file?_of_group? there ?_⟩
  intro group' live'
  obtain ⟨holding, found⟩ := accounts.exists_holding live'
  have held := OpenTable.object?_of_holding? found
  exact (acquired.object?_of_some held).trans held.symm

theorem Accounts.entered (accounts : tables.Accounts refs)
    (acquired : OpenTable.Acquired tables.system object row system) (cursor : Nat)
    (rights : Rights) (handle : Handle) (absent : ∀ id, (handle, id) ∉ refs) :
    (tables.entered system row cursor rights handle).Accounts
      ((handle, (tables.groups.found row cursor rights handle).1) :: refs) := by
  obtain ⟨fresh, look, tidy⟩ := accounts.tidy.found row cursor rights handle
  exact {
    distinct := List.nodup_cons.mpr ⟨absent _, accounts.distinct⟩
    enrolled := by
      intro handle' id'
      change _ ↔
        ∃ group, (tables.groups.found row cursor rights handle).2.group? id' = some group ∧ _
      rw [List.mem_cons, Prod.mk.injEq, accounts.enrolled, look]
      by_cases here : (tables.groups.found row cursor rights handle).1 = id'
      · subst here
        simp [fresh, OrderedMap.mem_singleton_iff]
      · simp [here, Ne.symm here]
    populated := by
      intro id' group' live'
      change (tables.groups.found row cursor rights handle).2.group? id' = some group' at live'
      rw [look] at live'
      by_cases here : (tables.groups.found row cursor rights handle).1 = id'
      · rw [if_pos here, Option.some.injEq] at live'
        subst live'
        exact OrderedMap.ne_empty_of_mem (OrderedMap.mem_singleton_iff.mpr rfl)
      · rw [if_neg here] at live'
        exact accounts.populated id' group' live'
    counted := by
      intro row'
      refine (acquired.handles row').trans ?_
      have others : (refs.countP fun ref =>
          (tables.entered system row cursor rights handle).row? ref.2 = some row') =
            refs.countP fun ref => tables.row? ref.2 = some row' := by
        apply List.countP_congr
        intro ref member
        have apart := (accounts.file?_entered acquired cursor rights handle member).1
        rw [row?_entered accounts.tidy, if_neg apart.symm]
      rw [List.countP_cons, others, accounts.counted, row?_entered accounts.tidy, if_pos rfl]
      simp
    positive := acquired.positive accounts.positive
    separate := acquired.separate accounts.separate
    tidy := tidy }

/-- A handle that refers to nothing can enter with a group of its own. -/
theorem Accounts.entering (accounts : tables.Accounts refs)
    (success : tables.system.acquire object = .ok (row, system)) (cursor : Nat)
    (rights : Rights) (handle : Handle) (absent : ∀ id, (handle, id) ∉ refs) :
    Entering tables object cursor rights handle refs
      (tables.groups.found row cursor rights handle).1
      (tables.entered system row cursor rights handle) := by
  have acquired := OpenTable.acquired_of_acquire success
  obtain ⟨fresh, look, _⟩ := accounts.tidy.found row cursor rights handle
  have there := look (tables.groups.found row cursor rights handle).1
  rw [if_pos rfl] at there
  obtain ⟨held, now, inode, origin⟩ := acquired.object?
  refine ⟨rfl, acquired.size, accounts.entered acquired cursor rights handle absent,
    fun ref member => (accounts.file?_entered acquired cursor rights handle member).1,
    fun ref member => (accounts.file?_entered acquired cursor rights handle member).2,
    held, file?_eq_some.mpr ⟨_, there, now, rfl, rfl⟩, inode, ?_⟩
  rcases origin with ⟨unknown, same⟩ | before
  · exact .inl ⟨accounts.rowOf?_eq_none_iff.mp unknown, same⟩
  · exact .inr (accounts.holds_of_object? before)

/-- What moving the cursor of a group does when the accounts are right. -/
structure Repositioning (tables : Tables) (id : GroupId) (cursor : Nat) (refs : List Reference)
    (after : Tables) : Prop where
  step : tables.groups.setCursor id cursor = .ok after.groups
  system : after.system = tables.system
  processes : after.processes = tables.processes
  accounts : after.Accounts refs
  files : ∀ other, after.file? other =
    if id = other then (tables.file? id).map fun file => { file with cursor := cursor }
    else tables.file? other

def repositioned (tables : Tables) (id : GroupId) (group : ShareGroup) (cursor : Nat) : Tables where
  system := tables.system
  groups := tables.groups.setSlot id (some (group.withCursor cursor))
  processes := tables.processes

variable {group : ShareGroup}

theorem group?_repositioned (live : tables.groups.group? id = some group) (cursor : Nat)
    (other : GroupId) :
    (tables.repositioned id group cursor).groups.group? other =
      if id = other then some (group.withCursor cursor) else tables.groups.group? other :=
  GroupArena.group?_setSlot _ (GroupArena.index_lt_of_group? live) other

theorem file?_repositioned (live : tables.groups.group? id = some group) (cursor : Nat)
    (other : GroupId) :
    (tables.repositioned id group cursor).file? other =
      if id = other then (tables.file? id).map fun file => { file with cursor := cursor }
      else tables.file? other := by
  have look := group?_repositioned live cursor other
  unfold file?
  rw [look]
  by_cases here : id = other
  · subst here
    simp only [if_true, live, Option.bind_some]
    change (tables.system.object? group.row).map _ = _
    cases tables.system.object? group.row <;> rfl
  · rw [if_neg here, if_neg here]
    rfl

theorem row?_repositioned (live : tables.groups.group? id = some group) (cursor : Nat)
    (other : GroupId) : (tables.repositioned id group cursor).row? other = tables.row? other := by
  unfold row?
  rw [group?_repositioned live]
  by_cases here : id = other
  · subst here
    rw [if_pos rfl, live]
    rfl
  · rw [if_neg here]

theorem Accounts.repositioned (accounts : tables.Accounts refs)
    (live : tables.groups.group? id = some group) (cursor : Nat) :
    (tables.repositioned id group cursor).Accounts refs where
  distinct := accounts.distinct
  enrolled handle id' := by
    rw [accounts.enrolled, group?_repositioned live]
    by_cases here : id = id'
    · subst here
      simp [live, ShareGroup.withCursor]
    · rw [if_neg here]
  populated id' group' live' := by
    rw [group?_repositioned live] at live'
    by_cases here : id = id'
    · rw [if_pos here, Option.some.injEq] at live'
      subst live'
      exact accounts.populated id group live
    · rw [if_neg here] at live'
      exact accounts.populated id' group' live'
  counted row := by
    simp only [row?_repositioned live]
    exact accounts.counted row
  positive := accounts.positive
  separate := accounts.separate
  tidy := accounts.tidy.setSlot live _

/-- The cursor of any group that is referred to can be moved. -/
theorem Accounts.repositioning (accounts : tables.Accounts refs) (known : (handle, id) ∈ refs)
    (cursor : Nat) : ∃ after, Repositioning tables id cursor refs after := by
  obtain ⟨group, live, _⟩ := accounts.live known
  exact ⟨tables.repositioned id group cursor, GroupArena.setCursor_of_live live cursor, rfl, rfl,
    accounts.repositioned live cursor, file?_repositioned live cursor⟩

end Tables

end OpenFiles
