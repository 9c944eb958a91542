import OpenFiles.Proofs.Tables.Accounts

/-!
# Joining and leaving a group

Both moves succeed on tables whose accounts are right, and leave accounts that are
right for the list with one reference more or less. Neither changes what a
remaining reference leads to. Whether a departure hands an object back is decided
by the references that remain: `Leaving` states it without counts.
-/

namespace OpenFiles

namespace Tables

variable {tables after : Tables} {refs rest : List Reference}
variable {handle : Handle} {id other : GroupId} {group : ShareGroup}
variable {row : RowId} {holding : Holding}

/-- A group has the inode number of a row's object exactly if it leads to the row. -/
theorem Accounts.inode?_eq_iff (accounts : tables.Accounts refs)
    (found : tables.system.holding? row = some holding) :
    tables.inode? id = some holding.object.inode ↔ tables.row? id = some row := by
  constructor
  · intro same
    obtain ⟨file, shown, inode⟩ := Option.map_eq_some_iff.mp same
    obtain ⟨group, live, held, _, _⟩ := file?_eq_some.mp shown
    obtain ⟨holding', found', object⟩ := Option.map_eq_some_iff.mp held
    refine row?_eq_some.mpr ⟨group, live, ?_⟩
    exact accounts.separate group.row row holding' holding found' found (by rw [object, inode])
  · intro leads
    obtain ⟨group, live, rfl⟩ := row?_eq_some.mp leads
    have shown : tables.file? id = some ⟨holding.object, group.cursor, group.rights⟩ :=
      file?_eq_some.mpr ⟨group, live, OpenTable.object?_of_holding? found, rfl, rfl⟩
    exact inode?_of_file? shown

def attached (tables : Tables) (handle : Handle) (id : GroupId) (group : ShareGroup)
    (holding : Holding) : Tables where
  system := tables.system.setRow group.row (some { holding with handles := holding.handles + 1 })
  groups := tables.groups.setSlot id (some (group.withMember handle))
  processes := tables.processes

theorem group?_attached (live : tables.groups.group? id = some group) (handle : Handle)
    (holding : Holding) (other : GroupId) :
    (tables.attached handle id group holding).groups.group? other =
      if id = other then some (group.withMember handle) else tables.groups.group? other :=
  GroupArena.group?_setSlot _ (GroupArena.index_lt_of_group? live) other

theorem row?_attached (live : tables.groups.group? id = some group) (handle : Handle)
    (holding : Holding) (other : GroupId) :
    (tables.attached handle id group holding).row? other = tables.row? other := by
  simp only [row?, group?_attached live]
  by_cases here : id = other
  · subst here
    simp [live, ShareGroup.withMember]
  · rw [if_neg here]

theorem file?_attached (live : tables.groups.group? id = some group)
    (found : tables.system.holding? group.row = some holding) (handle : Handle) (other : GroupId) :
    (tables.attached handle id group holding).file? other = tables.file? other := by
  have objects := OpenTable.object?_setRow_handles found (holding.handles + 1)
  have look := group?_attached live handle holding other
  by_cases here : id = other
  · subst here
    rw [if_pos rfl] at look
    exact file?_congr live look rfl rfl rfl (objects _)
  · rw [if_neg here] at look
    exact file?_of_group? look (fun _ _ => objects _)

theorem Accounts.attached (accounts : tables.Accounts refs)
    (live : tables.groups.group? id = some group)
    (found : tables.system.holding? group.row = some holding) (absent : (handle, id) ∉ refs) :
    (tables.attached handle id group holding).Accounts ((handle, id) :: refs) where
  distinct := List.nodup_cons.mpr ⟨absent, accounts.distinct⟩
  enrolled handle' id' := by
    rw [List.mem_cons, Prod.mk.injEq, accounts.enrolled, group?_attached live]
    by_cases here : id = id'
    · subst here
      simp [live, ShareGroup.withMember, OrderedMap.mem_insert]
    · simp [here, Ne.symm here]
  populated id' group' live' := by
    rw [group?_attached live] at live'
    by_cases here : id = id'
    · rw [if_pos here, Option.some.injEq] at live'
      subst live'
      exact OrderedMap.ne_empty_of_mem (OrderedMap.mem_insert.mpr (.inl rfl))
    · rw [if_neg here] at live'
      exact accounts.populated id' group' live'
  counted row := by
    have leads : tables.row? id = some group.row := row?_eq_some.mpr ⟨group, live, rfl⟩
    have handles := OpenTable.handles_setRow (some { holding with handles := holding.handles + 1 })
      (OpenTable.index_lt_of_holding? found) row
    rw [List.countP_cons]
    simp only [row?_attached live, ← accounts.counted, leads]
    refine handles.trans ?_
    by_cases here : group.row = row
    · subst here
      simp [OpenTable.handles_of_holding? found]
    · simp [here]
  positive := by
    apply accounts.positive.setRow (OpenTable.index_lt_of_holding? found)
    rintro held ⟨⟩
    exact Nat.succ_pos _
  separate := accounts.separate.of_object? fun row _ held =>
    (OpenTable.object?_setRow_handles found (holding.handles + 1) row).symm.trans held
  tidy := accounts.tidy.setSlot live _

/-- What adding a handle to a group does when the accounts are right. No open file
changes by it. -/
structure Joining (tables : Tables) (handle : Handle) (id : GroupId) (refs : List Reference)
    (after : Tables) : Prop where
  steps : ∃ group, tables.groups.group? id = some group ∧
    tables.system.retain group.row = .ok after.system ∧
    tables.groups.join id handle = .ok after.groups
  processes : after.processes = tables.processes
  accounts : after.Accounts ((handle, id) :: refs)
  files : ∀ other, after.file? other = tables.file? other

theorem Joining.size (joining : Joining tables handle id refs after) :
    after.system.size = tables.system.size := by
  obtain ⟨group, _, retained, _⟩ := joining.steps
  exact OpenTable.size_of_retain retained

/-- A handle can join any group that is referred to, unless it is in the group already. -/
theorem Accounts.joining (accounts : tables.Accounts refs) {present : Handle}
    (known : (present, id) ∈ refs) (absent : (handle, id) ∉ refs) :
    ∃ after, Joining tables handle id refs after := by
  obtain ⟨group, live, _⟩ := accounts.live known
  obtain ⟨holding, found⟩ := accounts.exists_holding live
  exact ⟨tables.attached handle id group holding,
    ⟨group, live, OpenTable.retain_of_positive accounts.positive found,
      GroupArena.join_of_live live handle⟩,
    rfl, accounts.attached live found absent, file?_attached live found handle⟩

def detached (tables : Tables) (handle : Handle) (id : GroupId) (group : ShareGroup)
    (holding : Holding) : Tables where
  system := tables.system.setRow group.row holding.dropped
  groups := tables.groups.departed id group handle
  processes := tables.processes

/-- A group with a reference left keeps its row, its cursor and its rights. -/
theorem Accounts.group?_detached (accounts : tables.Accounts ((handle, id) :: rest))
    (live : tables.groups.group? id = some group) {handle' : Handle}
    (remains : (handle', other) ∈ rest) :
    ∃ before changed, tables.groups.group? other = some before ∧
      (tables.groups.departed id group handle).group? other = some changed ∧
      changed.row = before.row ∧ changed.cursor = before.cursor ∧
        changed.rights = before.rights := by
  obtain ⟨absent, _⟩ := List.nodup_cons.mp accounts.distinct
  obtain ⟨before, was, enrolled⟩ := accounts.live (List.mem_cons_of_mem _ remains)
  have stays : ¬ (other = id ∧ handle' = handle) := by
    rintro ⟨rfl, rfl⟩
    exact absent remains
  obtain ⟨changed, now, _⟩ :=
    (GroupArena.mem_departed_iff live).mpr ⟨⟨before, was, enrolled⟩, stays⟩
  obtain ⟨before', was', same⟩ := GroupArena.of_group?_departed live now
  rw [was, Option.some.injEq] at was'
  subst was'
  exact ⟨before, changed, was, now, by rw [same], by rw [same], by rw [same]⟩

theorem Accounts.row?_detached (accounts : tables.Accounts ((handle, id) :: rest))
    (live : tables.groups.group? id = some group) (holding : Holding) {ref : Reference}
    (remains : ref ∈ rest) :
    (tables.detached handle id group holding).row? ref.2 = tables.row? ref.2 := by
  obtain ⟨before, changed, was, now, row, _, _⟩ := accounts.group?_detached live remains
  rw [row?, row?, was]
  simp only [detached, now, Option.map_some, row]

/-- The row that a handle leaves counts it beside the references that remain. -/
theorem Accounts.handles_detached (accounts : tables.Accounts ((handle, id) :: rest))
    (live : tables.groups.group? id = some group)
    (found : tables.system.holding? group.row = some holding) :
    holding.handles = (rest.countP fun ref => tables.row? ref.2 = some group.row) + 1 := by
  have leads : tables.row? id = some group.row := row?_eq_some.mpr ⟨group, live, rfl⟩
  have counted := accounts.counted group.row
  rw [OpenTable.handles_of_holding? found, List.countP_cons] at counted
  simpa only [leads, decide_true, if_true] using counted

theorem Accounts.file?_detached (accounts : tables.Accounts ((handle, id) :: rest))
    (live : tables.groups.group? id = some group)
    (found : tables.system.holding? group.row = some holding) {ref : Reference}
    (remains : ref ∈ rest) :
    (tables.detached handle id group holding).file? ref.2 = tables.file? ref.2 := by
  obtain ⟨before, changed, was, now, row, cursor, rights⟩ := accounts.group?_detached live remains
  refine file?_congr was now row cursor rights ?_
  have objects := OpenTable.object?_setRow holding.dropped (OpenTable.index_lt_of_holding? found)
    before.row
  refine objects.trans ?_
  by_cases here : group.row = before.row
  · have others : rest.countP (fun ref => tables.row? ref.2 = some group.row) ≠ 0 := by
      have leads : tables.row? ref.2 = some group.row := row?_eq_some.mpr ⟨before, was, here.symm⟩
      exact Nat.ne_of_gt (List.countP_pos_iff.mpr ⟨ref, remains, decide_eq_true leads⟩)
    have several : holding.handles ≠ 1 := by
      rw [accounts.handles_detached live found]
      omega
    rw [if_pos here, ← here, OpenTable.object?_of_holding? found, Holding.dropped, if_neg several]
    rfl
  · rw [if_neg here]

/-- The members of the groups that are left are the references that remain. -/
theorem Accounts.enrolled_detached (accounts : tables.Accounts ((handle, id) :: rest))
    (live : tables.groups.group? id = some group) (handle' : Handle) (id' : GroupId) :
    (handle', id') ∈ rest ↔
      ∃ left, (tables.groups.departed id group handle).group? id' = some left ∧
        handle' ∈ left.members := by
  obtain ⟨absent, _⟩ := List.nodup_cons.mp accounts.distinct
  rw [GroupArena.mem_departed_iff live, ← accounts.enrolled, List.mem_cons, Prod.mk.injEq]
  constructor
  · intro remains
    refine ⟨.inr remains, ?_⟩
    rintro ⟨rfl, rfl⟩
    exact absent remains
  · rintro ⟨⟨rfl, rfl⟩ | remains, apart⟩
    · exact absurd ⟨rfl, rfl⟩ apart
    · exact remains

/-- The row that a handle leaves counts one handle less, and the others count as before. -/
theorem Accounts.counted_detached (accounts : tables.Accounts ((handle, id) :: rest))
    (live : tables.groups.group? id = some group)
    (found : tables.system.holding? group.row = some holding) (row : RowId) :
    (tables.system.setRow group.row holding.dropped).handles row =
      rest.countP fun ref => tables.row? ref.2 = some row := by
  rw [OpenTable.handles_setRow holding.dropped (OpenTable.index_lt_of_holding? found)]
  by_cases here : group.row = row
  · subst here
    have count := accounts.handles_detached live found
    rw [if_pos rfl, Holding.handles_dropped]
    omega
  · have elsewhere : tables.row? id ≠ some row := by
      intro leads
      obtain ⟨group', live', same⟩ := row?_eq_some.mp leads
      rw [live, Option.some.injEq] at live'
      exact here (live' ▸ same)
    have counted := accounts.counted row
    rw [List.countP_cons] at counted
    rw [if_neg here]
    simpa only [elsewhere, decide_false, Bool.false_eq_true, if_false, Nat.add_zero] using counted

theorem Accounts.detached (accounts : tables.Accounts ((handle, id) :: rest))
    (live : tables.groups.group? id = some group)
    (found : tables.system.holding? group.row = some holding) :
    (tables.detached handle id group holding).Accounts rest where
  distinct := (List.nodup_cons.mp accounts.distinct).2
  enrolled := accounts.enrolled_detached live
  populated := GroupArena.populated_departed live accounts.populated
  counted row := by
    refine (accounts.counted_detached live found row).trans ?_
    apply List.countP_congr
    intro ref remains
    rw [accounts.row?_detached live holding remains]
  positive := by
    apply accounts.positive.setRow (OpenTable.index_lt_of_holding? found)
    intro left stays
    exact (Holding.object_eq_of_dropped (accounts.positive group.row holding found) stays).2
  separate := accounts.separate.of_object? fun _ _ held =>
    OpenTable.object?_of_dropped accounts.positive found held
  tidy := accounts.tidy.departed live handle

/-- What is left was there before. Live groups have lost members at most, and rows in use
have lost handles at most. -/
structure Remnant (tables after : Tables) : Prop where
  width : after.groups.slots.length = tables.groups.slots.length
  groups : ∀ id left, after.groups.group? id = some left →
    ∃ group, tables.groups.group? id = some group ∧ left = { group with members := left.members }
  objects : ∀ row object, after.system.object? row = some object →
    tables.system.object? row = some object

theorem Remnant.refl (tables : Tables) : Remnant tables tables :=
  ⟨rfl, fun _ group live => ⟨group, live, rfl⟩, fun _ _ held => held⟩

theorem Remnant.trans {middle : Tables} (first : Remnant tables middle)
    (second : Remnant middle after) : Remnant tables after where
  width := second.width.trans first.width
  groups id left live := by
    obtain ⟨between, there, later⟩ := second.groups id left live
    obtain ⟨group, before, earlier⟩ := first.groups id between there
    exact ⟨group, before, by rw [later, earlier]⟩
  objects row object held := first.objects row object (second.objects row object held)

/-- What was there before a handle joined is what is left once it is taken away. -/
theorem Joining.remnant (joining : Joining tables handle id refs after) :
    Remnant after tables := by
  obtain ⟨group, live, retained, joined⟩ := joining.steps
  rw [GroupArena.join_of_live live] at joined
  have groups : tables.groups.setSlot id (some (group.withMember handle)) = after.groups :=
    Except.ok.inj joined
  refine ⟨?_, fun other left there => ?_, fun row object held => ?_⟩
  · rw [← groups, GroupArena.setSlot, List.length_set]
  · rw [← groups, GroupArena.group?_setSlot _ (GroupArena.index_lt_of_group? live)]
    by_cases here : id = other
    · subst here
      rw [live, Option.some.injEq] at there
      subst there
      rw [if_pos rfl]
      exact ⟨_, rfl, rfl⟩
    · rw [if_neg here]
      exact ⟨left, there, rfl⟩
  · exact (OpenTable.object?_of_retain retained row).trans held

theorem Accounts.remnant_detached (accounts : tables.Accounts ((handle, id) :: rest))
    (live : tables.groups.group? id = some group)
    (found : tables.system.holding? group.row = some holding) :
    Remnant tables (tables.detached handle id group holding) where
  width := GroupArena.length_departed id group handle
  groups _ _ stays := GroupArena.of_group?_departed live stays
  objects _ _ held := OpenTable.object?_of_dropped accounts.positive found held

/-- What taking a handle out of its group does when the accounts are right. The
object is handed back exactly if no remaining reference is on its inode number. -/
structure Leaving (tables : Tables) (handle : Handle) (id : GroupId) (rest : List Reference)
    (file : OpenFile) (last : Option Object) (after : Tables) : Prop where
  shown : tables.file? id = some file
  steps : ∃ row, tables.groups.leave id handle = .ok (row, after.groups) ∧
    tables.system.release row = .ok (last, after.system)
  processes : after.processes = tables.processes
  accounts : after.Accounts rest
  files : ∀ ref ∈ rest, after.file? ref.2 = tables.file? ref.2
  remnant : Remnant tables after
  last : last = if tables.Refers rest file.object.inode then none else some file.object

theorem Leaving.size {last : Option Object}
    (leaving : Leaving tables handle id rest file last after) :
    after.system.size = tables.system.size := by
  obtain ⟨row, _, released⟩ := leaving.steps
  exact OpenTable.size_of_release released

/-- Any handle that refers to a group can be taken out of it. -/
theorem Accounts.leaving (accounts : tables.Accounts ((handle, id) :: rest)) :
    ∃ file last after, Leaving tables handle id rest file last after := by
  obtain ⟨group, live, enrolled⟩ := accounts.live List.mem_cons_self
  obtain ⟨holding, found⟩ := accounts.exists_holding live
  refine ⟨⟨holding.object, group.cursor, group.rights⟩,
    if holding.handles = 1 then some holding.object else none,
    tables.detached handle id group holding,
    file?_eq_some.mpr ⟨group, live, OpenTable.object?_of_holding? found, rfl, rfl⟩,
    ⟨group.row, GroupArena.leave_of_mem live enrolled,
      OpenTable.release_of_positive accounts.positive found⟩,
    rfl, accounts.detached live found,
    fun ref remains => accounts.file?_detached live found remains,
    accounts.remnant_detached live found, ?_⟩
  have count := accounts.handles_detached live found
  have others : tables.Refers rest holding.object.inode ↔
      rest.countP (fun ref => tables.row? ref.2 = some group.row) ≠ 0 := by
    simp only [Refers, accounts.inode?_eq_iff found, ← Nat.pos_iff_ne_zero, List.countP_pos_iff,
      decide_eq_true_eq]
  by_cases single : holding.handles = 1
  · rw [if_pos single, if_neg (by rw [others]; omega)]
  · rw [if_neg single, if_pos (by rw [others]; omega)]

end Tables

end OpenFiles
