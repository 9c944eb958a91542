import OpenFiles.Proofs.Tables.Moves

/-!
# Several handles leaving

When a descriptor is closed one handle leaves its group; when a process ends, one
after the other all of them do. `Departures` sums up such a run of moves by what
stays and by what was handed back. An object is handed back once for each inode
number that the leaving handles were the last to refer to, and for no other.

The summary leaves nothing open but the order in which objects are handed back. Groups, rows
and free slots are the same after any departures that leave the same references behind.
-/

namespace OpenFiles

/-- Two lists of optional entries are equal if they are equally long and show the same
entries. -/
theorem eq_of_join {α : Type} {xs ys : List (Option α)} (length : xs.length = ys.length)
    (same : ∀ index : Nat, (xs[index]?).join = (ys[index]?).join) : xs = ys := by
  refine List.ext_getElem length fun index left right => ?_
  have joined := same index
  rwa [List.getElem?_eq_getElem left, List.getElem?_eq_getElem right] at joined

namespace Tables

variable {tables middle after : Tables} {leaving later rest : List Reference} {ref : Reference}
variable {file : OpenFile} {last : Option Object} {gone lost : List Object} {inode : Inode}

/-- What is left, and what was handed back, after some handles have left. -/
structure Departures (tables : Tables) (leaving rest : List Reference) (gone : List Object)
    (after : Tables) : Prop where
  processes : after.processes = tables.processes
  size : after.system.size = tables.system.size
  accounts : after.Accounts rest
  files : ∀ ref ∈ rest, after.file? ref.2 = tables.file? ref.2
  remnant : Remnant tables after
  held : ∀ object ∈ gone, tables.Holds leaving object
  once : ∀ inode, (gone.countP fun object => object.inode = inode) =
    if tables.Refers leaving inode ∧ ¬ tables.Refers rest inode then 1 else 0

/-- Objects that are held are told apart by their inode numbers. -/
theorem eq_of_holds {object held : Object} (separate : tables.system.Separate)
    (first : tables.Holds leaving object) (second : tables.Holds rest held)
    (same : object.inode = held.inode) : object = held := by
  obtain ⟨_, _, file, shown, rfl⟩ := first
  obtain ⟨_, _, file', shown', rfl⟩ := second
  obtain ⟨group, _, object, _⟩ := file?_eq_some.mp shown
  obtain ⟨group', _, object', _⟩ := file?_eq_some.mp shown'
  obtain ⟨holding, found, here⟩ := Option.map_eq_some_iff.mp object
  obtain ⟨holding', found', here'⟩ := Option.map_eq_some_iff.mp object'
  have rows := separate _ _ holding holding' found found' (by rw [here, here', same])
  rw [rows, object'] at object
  exact (Option.some.inj object).symm

namespace Departures

theorem nil (accounts : tables.Accounts rest) : Departures tables [] rest [] tables where
  processes := rfl
  size := rfl
  accounts := accounts
  files _ _ := rfl
  remnant := .refl tables
  held object member := absurd member List.not_mem_nil
  once inode := by simp [Refers]

/-- One handle leaves. -/
theorem one (first : Leaving tables ref.1 ref.2 rest file last after) :
    Departures tables [ref] rest last.toList after where
  processes := first.processes
  size := first.size
  accounts := first.accounts
  files := first.files
  remnant := first.remnant
  held object member := by
    have released : last = some object := Option.mem_toList.mp member
    rw [first.last] at released
    split at released
    · cases released
    · exact ⟨ref, List.mem_cons_self, file, first.shown, Option.some.inj released⟩
  once inode := by
    have here := inode?_of_file? first.shown
    have alone : tables.Refers [ref] inode ↔ file.object.inode = inode := by
      rw [refers_cons, here, Option.some.injEq]
      simp [Refers]
    rw [first.last]
    simp only [alone]
    by_cases same : file.object.inode = inode
    · subst same
      by_cases others : tables.Refers rest file.object.inode <;> simp [others]
    · by_cases others : tables.Refers rest file.object.inode <;> simp [others, same]

/-- Some handles leave, and then others. -/
theorem append (first : Departures tables leaving (later ++ rest) gone middle)
    (second : Departures middle later rest lost after) :
    Departures tables (leaving ++ later) rest (gone ++ lost) after where
  processes := second.processes.trans first.processes
  size := second.size.trans first.size
  accounts := second.accounts
  files ref remains :=
    (second.files ref remains).trans (first.files ref (List.mem_append_right _ remains))
  remnant := first.remnant.trans second.remnant
  held object member := by
    rw [holds_append]
    rcases List.mem_append.mp member with before | afterwards
    · exact .inl (first.held object before)
    · refine .inr ((holds_congr fun ref left => ?_).mp (second.held object afterwards))
      exact first.files ref (List.mem_append_left _ left)
  once inode := by
    have left : middle.Refers later inode ↔ tables.Refers later inode :=
      refers_congr fun ref member => first.files ref (List.mem_append_left _ member)
    have stayed : middle.Refers rest inode ↔ tables.Refers rest inode :=
      refers_congr fun ref member => first.files ref (List.mem_append_right _ member)
    rw [List.countP_append, first.once, second.once]
    simp only [left, stayed, refers_append]
    by_cases before : tables.Refers leaving inode <;>
      by_cases afterwards : tables.Refers later inode <;>
        by_cases stays : tables.Refers rest inode <;> simp [before, afterwards, stays]

/-- The references that are left may be listed in another order. -/
theorem perm {rest' : List Reference} (departures : Departures tables leaving rest gone after)
    (same : rest.Perm rest') : Departures tables leaving rest' gone after where
  processes := departures.processes
  size := departures.size
  accounts := departures.accounts.perm same
  files ref remains := departures.files ref (same.mem_iff.mpr remains)
  remnant := departures.remnant
  held := departures.held
  once inode := by
    have refers : tables.Refers rest' inode ↔ tables.Refers rest inode := by
      simp only [Refers, same.mem_iff]
    rw [departures.once]
    simp only [refers]

theorem cons (first : Leaving tables ref.1 ref.2 (leaving ++ rest) file last middle)
    (others : Departures middle leaving rest gone after) :
    Departures tables (ref :: leaving) rest (last.toList ++ gone) after :=
  (one first).append others

/-! ### What is left is determined -/

section Determined

variable {other : Tables} {leaving' : List Reference} {id : GroupId} {row : RowId}

/-- A group that is left has the row, cursor and rights it had, and the members that the
remaining references give it. -/
theorem group?_of_group? (first : Departures tables leaving rest gone after)
    (second : Departures tables leaving' rest lost other) {left : ShareGroup}
    (live : after.groups.group? id = some left) : other.groups.group? id = some left := by
  obtain ⟨handle, member⟩ := first.accounts.exists_reference live
  obtain ⟨left', live', _⟩ := second.accounts.live member
  obtain ⟨group, before, same⟩ := first.remnant.groups id left live
  obtain ⟨group', before', same'⟩ := second.remnant.groups id left' live'
  rw [before, Option.some.injEq] at before'
  subst before'
  have members : left'.members = left.members := by
    apply OrderedMap.ext_mem
    intro handle
    have enrolled := (second.accounts.enrolled handle id).symm.trans
      (first.accounts.enrolled handle id)
    simpa only [live, live', Option.some.injEq, exists_eq_left'] using enrolled
  rw [live', same', members, ← same]

theorem group?_eq (first : Departures tables leaving rest gone after)
    (second : Departures tables leaving' rest lost other) (id : GroupId) :
    after.groups.group? id = other.groups.group? id :=
  Option.ext fun _ => ⟨first.group?_of_group? second, second.group?_of_group? first⟩

/-- A row that is left has the object it had, and counts the remaining references. -/
theorem holding?_of_holding? (first : Departures tables leaving rest gone after)
    (second : Departures tables leaving' rest lost other) {holding : Holding}
    (found : after.system.holding? row = some holding) :
    other.system.holding? row = some holding := by
  have handles : other.system.handles row = holding.handles := by
    have rows : after.row? = other.row? :=
      funext fun id => congrArg (Option.map ShareGroup.row) (first.group?_eq second id)
    rw [← OpenTable.handles_of_holding? found, first.accounts.counted, second.accounts.counted,
      rows]
  cases found' : other.system.holding? row with
  | none =>
      have positive := first.accounts.positive row holding found
      rw [← handles, OpenTable.handles_eq_zero_of_free found'] at positive
      exact absurd positive (Nat.lt_irrefl 0)
  | some holding' =>
      have object := first.remnant.objects row _ (OpenTable.object?_of_holding? found)
      have object' := second.remnant.objects row _ (OpenTable.object?_of_holding? found')
      rw [object, Option.some.injEq] at object'
      rw [OpenTable.handles_of_holding? found'] at handles
      obtain ⟨held, count⟩ := holding
      obtain ⟨held', count'⟩ := holding'
      exact congrArg some (congrArg₂ Holding.mk object'.symm handles)

theorem holding?_eq (first : Departures tables leaving rest gone after)
    (second : Departures tables leaving' rest lost other) (row : RowId) :
    after.system.holding? row = other.system.holding? row :=
  Option.ext fun _ => ⟨first.holding?_of_holding? second, second.holding?_of_holding? first⟩

theorem mem_free_iff (first : Departures tables leaving rest gone after)
    (second : Departures tables leaving' rest lost other) (index : Nat) :
    index ∈ after.groups.free ↔ index ∈ other.groups.free := by
  rw [first.accounts.tidy, second.accounts.tidy, first.group?_eq second, first.remnant.width,
    second.remnant.width]

/-- The same references left make the same tables, whichever handles it was that left. -/
theorem eq_tables (first : Departures tables leaving rest gone after)
    (second : Departures tables leaving' rest lost other) : after = other := by
  have height := first.size.trans second.size.symm
  have width := first.remnant.width.trans second.remnant.width.symm
  have same : after.processes = other.processes := first.processes.trans second.processes.symm
  have live := first.group?_eq second
  have found := first.holding?_eq second
  have vacant := first.mem_free_iff second
  obtain ⟨⟨rows⟩, ⟨slots, free⟩, processes⟩ := after
  obtain ⟨⟨rows'⟩, ⟨slots', free'⟩, processes'⟩ := other
  have rows_eq : rows = rows' := eq_of_join height fun index => found ⟨index⟩
  have slots_eq : slots = slots' := eq_of_join width fun index => live ⟨index⟩
  have free_eq : free = free' := OrderedMap.ext_mem vacant
  have processes_eq : processes = processes' := same
  rw [rows_eq, slots_eq, free_eq, processes_eq]

/-- An object is handed back if it was held and no reference is left on its inode number. -/
theorem mem_gone_iff (separate : tables.system.Separate)
    (departures : Departures tables leaving rest gone after) {object : Object} :
    object ∈ gone ↔ tables.Holds leaving object ∧ ¬ tables.Refers rest object.inode := by
  have once := departures.once object.inode
  constructor
  · intro member
    have some : 0 < gone.countP fun held => held.inode = object.inode :=
      List.countP_pos_iff.mpr ⟨object, member, decide_eq_true rfl⟩
    refine ⟨departures.held object member, fun stays => ?_⟩
    rw [once, if_neg fun both => both.2 stays] at some
    exact absurd some (Nat.lt_irrefl 0)
  · rintro ⟨holds, last⟩
    have leaves : tables.Refers leaving object.inode := refers_iff_holds.mpr ⟨object, holds, rfl⟩
    rw [if_pos ⟨leaves, last⟩] at once
    obtain ⟨held, member, same⟩ := List.countP_pos_iff.mp (once ▸ Nat.one_pos)
    have here := eq_of_holds separate (departures.held held member) holds (of_decide_eq_true same)
    exact here ▸ member

/-- No object is handed back twice. -/
theorem nodup_gone (departures : Departures tables leaving rest gone after) : gone.Nodup := by
  rw [List.nodup_iff_count_le_one]
  intro object
  calc gone.count object
      ≤ gone.countP (fun held => held.inode = object.inode) := by
        rw [List.count_eq_countP]
        apply List.countP_mono_left
        intro held _ same
        exact decide_eq_true (congrArg Object.inode (eq_of_beq same))
    _ ≤ 1 := by
        rw [departures.once]
        split <;> omega

/-- The same handles hand back the same objects, in whatever order they leave. -/
theorem perm_gone (separate : tables.system.Separate)
    (first : Departures tables leaving rest gone after)
    (second : Departures tables leaving' rest lost other) (same : leaving.Perm leaving') :
    gone.Perm lost := by
  rw [List.perm_ext_iff_of_nodup first.nodup_gone second.nodup_gone]
  intro object
  rw [first.mem_gone_iff separate, second.mem_gone_iff separate, holds_perm same]

end Determined

end Departures

/-- A handle that is accounted for can leave, and the accounts of the others stay. -/
theorem Accounts.departs (accounts : tables.Accounts (ref :: rest)) :
    ∃ file last after, Leaving tables ref.1 ref.2 rest file last after ∧
      Departures tables [ref] rest last.toList after := by
  obtain ⟨file, last, after, first⟩ := accounts.leaving
  exact ⟨file, last, after, first, .one first⟩

end Tables

end OpenFiles
