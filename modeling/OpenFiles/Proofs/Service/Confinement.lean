import OpenFiles.Proofs.Service.Cells
import OpenFiles.Proofs.Service.Copying
import OpenFiles.Service.Transfer

/-!
# Actions confined to a region

An action is confined to a region if it neither writes outside the region nor depends on
what is there: run from two states that agree on the region, it gives the same result and
leaves them in agreement, and each is what it was elsewhere. The region has to be closed,
and stays closed, so that what the action looks up in it leads to more of it.

Confinement composes (`Confined.bind`). Each step on one cell is confined to any region
that has the cell, and from the steps the operations on a descriptor are.
-/

namespace OpenFiles

namespace Service

open OpenFiles.Action
open Cell (Contents Leads Within)

variable {κ α β : Type} {region : Set Cell} {P : α → Prop} {Q : β → Prop}
variable {s t s' t' s'' t'' : Service FileTree κ}

/-- Two states that agree on a region have been changed alike, and in the region only. -/
structure Parallel (region : Set Cell) (s t s' t' : Service FileTree κ) : Prop where
  closed : Closed region s'
  agree : Agree region s' t'
  left : Agree regionᶜ s s'
  right : Agree regionᶜ t t'

/-- Two runs from states that agree on a region have the same result, and have changed the
states alike. An answer has a property. -/
inductive Twin (region : Set Cell) (P : α → Prop) (s t : Service FileTree κ) :
    EStateM.Result Stop (Service FileTree κ) α → EStateM.Result Stop (Service FileTree κ) α → Prop
  | ok {value : α} {s' t' : Service FileTree κ} (holds : P value)
      (parallel : Parallel region s t s' t') : Twin region P s t (.ok value s') (.ok value t')
  | error {stop : Stop} {s' t' : Service FileTree κ} (parallel : Parallel region s t s' t') :
      Twin region P s t (.error stop s') (.error stop t')

/-- The action neither writes outside a region nor depends on what is there. -/
def Confined (region : Set Cell) (P : α → Prop) (action : Action (Service FileTree κ) α) : Prop :=
  ∀ s t, Closed region s → Agree region s t → Twin region P s t (action.run s) (action.run t)

namespace Parallel

theorem refl (closed : Closed region s) (agree : Agree region s t) : Parallel region s t s t :=
  ⟨closed, agree, .refl _ s, .refl _ t⟩

theorem trans (first : Parallel region s t s' t') (second : Parallel region s' t' s'' t'') :
    Parallel region s t s'' t'' :=
  ⟨second.closed, second.agree, first.left.trans second.left, first.right.trans second.right⟩

theorem of_writes {cell : Cell} {contents : Contents} (closed : Closed region s)
    (agree : Agree region s t) (here : cell ∈ region) (within : Within region contents)
    (left : s.Writes cell contents s') (right : t.Writes cell contents t') :
    Parallel region s t s' t' :=
  ⟨left.closed closed within, agree.write left right, left.agree_compl here,
    right.agree_compl here⟩

end Parallel

theorem Twin.trans {first second : EStateM.Result Stop (Service FileTree κ) α}
    (parallel : Parallel region s t s' t') (twin : Twin region P s' t' first second) :
    Twin region P s t first second := by
  cases twin with
  | ok holds later => exact .ok holds (parallel.trans later)
  | error later => exact .error (parallel.trans later)

/-- What is made of an answer runs alike from where the answer was given. -/
theorem Twin.bind {action : Action (Service FileTree κ) α}
    {f : α → Action (Service FileTree κ) β}
    (twin : Twin region P s t (action.run s) (action.run t))
    (next : ∀ value s' t', action.run s = .ok value s' → P value → Closed region s' →
      Agree region s' t' → Twin region Q s' t' ((f value).run s') ((f value).run t')) :
    Twin region Q s t ((action >>= f).run s) ((action >>= f).run t) := by
  rw [EStateM.run_bind, EStateM.run_bind]
  generalize left : action.run s = first at twin
  generalize action.run t = second at twin
  cases twin with
  | ok holds parallel =>
      exact .trans parallel (next _ _ _ left holds parallel.closed parallel.agree)
  | error parallel => exact .error parallel

namespace Confined

theorem pure {value : α} (holds : P value) :
    Confined region P (pure value : Action (Service FileTree κ) α) :=
  fun _ _ closed agree => .ok holds (.refl closed agree)

theorem refuse (reason : Error) :
    Confined region P (refuse reason : Action (Service FileTree κ) α) :=
  fun _ _ closed agree => .error (.refl closed agree)

theorem fail (fault : Fault) : Confined region P (fail fault : Action (Service FileTree κ) α) :=
  fun _ _ closed agree => .error (.refl closed agree)

theorem orRefuse (result : Except Error α) :
    Confined region (fun value => result = .ok value)
      (orRefuse result : Action (Service FileTree κ) α) := by
  cases result with
  | ok value => exact pure rfl
  | error reason => exact refuse reason

theorem bind {action : Action (Service FileTree κ) α} {f : α → Action (Service FileTree κ) β}
    (first : Confined region P action) (next : ∀ value, P value → Confined region Q (f value)) :
    Confined region Q (action >>= f) := fun s t closed agree =>
  (first s t closed agree).bind fun value s' t' _ holds closed agree =>
    next value holds s' t' closed agree

/-- A look at the state is confined to what is looked at. -/
theorem get_bind {f : Service FileTree κ → Action (Service FileTree κ) α}
    (same : ∀ s t, Closed region s → Agree region s t → f s = f t)
    (confined : ∀ s, Closed region s → Confined region P (f s)) :
    Confined region P (get >>= f) := by
  intro s t closed agree
  rw [EStateM.run_bind, EStateM.run_bind]
  change Twin region P s t ((f s).run s) ((f t).run t)
  rw [← same s t closed agree]
  exact confined s closed s t closed agree

theorem attempt {action : Action (Service FileTree κ) α} (confined : Confined region P action) :
    Confined region (fun _ => True) (attempt action) := by
  intro s t closed agree
  have twin := confined s t closed agree
  rw [run_attempt, run_attempt]
  generalize action.run s = first at twin
  generalize action.run t = second at twin
  cases twin with
  | ok holds parallel => exact .ok trivial parallel
  | @error stop s' t' parallel =>
      cases stop with
      | refused reason => exact .ok trivial parallel
      | faulted fault => exact .error parallel

end Confined

section Steps

variable {pid : Pid} {fd : Descriptor} {id : GroupId} {row : RowId} {handle : Handle}

theorem confined_note (notice : Notice) :
    Confined region (fun _ => True) (note notice : Action (Service FileTree κ) Unit) :=
  fun s t closed agree => .ok trivial ⟨closed, agree.withJournal _ _,
    (Agree.refl _ s).withJournal s.journal _, (Agree.refl _ t).withJournal t.journal _⟩

theorem confined_process (here : Cell.process pid ∈ region) :
    Confined region (fun table => Within region (.process (some table)))
      (process pid : Action (Service FileTree κ) DescriptorTable) := by
  refine Confined.get_bind (fun s t _ agree => by rw [agree.processes here]) fun s closed => ?_
  have within := closed _ here
  rw [look] at within
  cases found : s.tables.processes.get? pid with
  | none => exact .refuse _
  | some table => exact .pure (by rwa [found] at within)

theorem confined_setProcess {table : DescriptorTable} (here : Cell.process pid ∈ region)
    (within : Within region (.process (some table))) :
    Confined region (fun _ => True)
      (setProcess pid table : Action (Service FileTree κ) Unit) := fun s t closed agree =>
  .ok trivial (.of_writes closed agree here within (writes_withProcesses s pid table)
    (writes_withProcesses t pid table))

/-- A populated slot leads to a group of the region. -/
theorem confined_slot (here : Cell.process pid ∈ region) (fd : Descriptor) :
    Confined region (fun slot => ∀ id, slot = .shared id → Cell.group id ∈ region)
      (slot pid fd : Action (Service FileTree κ) Slot) := by
  refine (confined_process here).bind fun table within => ?_
  intro s t closed agree
  cases found : table.slot fd with
  | error reason => exact Confined.refuse reason s t closed agree
  | ok slot =>
      refine Confined.pure ?_ s t closed agree
      rintro id rfl
      exact within _ (.slot (DescriptorTable.slot_eq_ok_iff.mp found))

theorem confined_group (here : Cell.group id ∈ region) :
    Confined region (fun group => Cell.row group.row ∈ region)
      (group id : Action (Service FileTree κ) ShareGroup) := by
  refine Confined.get_bind (fun s t _ agree => ?_) fun s closed => ?_
  · simp only [GroupArena.group, (agree.groups here).1]
  · have within := closed _ here
    rw [look] at within
    rw [GroupArena.group]
    cases live : s.tables.groups.group? id with
    | none => exact .fail _
    | some group =>
        rw [live] at within
        exact .pure (within _ (.row group _))

theorem confined_objectBehind (here : Cell.group id ∈ region) :
    Confined region (fun object => Cell.node object.node ∈ region)
      (objectBehind id : Action (Service FileTree κ) Object) := by
  refine (confined_group here).bind fun group there => ?_
  refine Confined.get_bind (fun s t _ agree => ?_) fun s closed => ?_
  · simp only [OpenTable.object, agree.rows there]
  · have within := closed _ there
    rw [look] at within
    rw [OpenTable.object]
    cases found : s.tables.system.holding? group.row with
    | none => exact .refuse _
    | some holding =>
        rw [found] at within
        exact .pure (within _ (.object holding))

/-- A step that puts another group into a live slot, on the same row. -/
theorem confined_setSlot {action : Action (Service FileTree κ) Unit}
    (here : Cell.group id ∈ region) (change : ShareGroup → ShareGroup)
    (row : ∀ group, (change group).row = group.row)
    (run : ∀ s : Service FileTree κ, action.run s =
      match s.tables.groups.group? id with
      | some group => .ok () (s.withGroups (s.tables.groups.setSlot id (some (change group))))
      | none => .error (.faulted (.deadGroup id)) s) :
    Confined region (fun _ => True) action := by
  intro s t closed agree
  obtain ⟨same, free⟩ := agree.groups here
  have within := closed _ here
  rw [look] at within
  rw [run, run, ← same]
  cases live : s.tables.groups.group? id with
  | none => exact .error (.refl closed agree)
  | some group =>
      rw [live] at within same
      have right := writes_setSlot t same.symm (some (change group))
      rw [← free] at right
      refine .ok trivial (.of_writes closed agree here ?_ (writes_setSlot s live _) right)
      rintro cell ⟨⟩
      rw [row]
      exact within _ (.row group _)

theorem confined_setCursor (here : Cell.group id ∈ region) (cursor : Nat) :
    Confined region (fun _ => True)
      (setCursor id cursor : Action (Service FileTree κ) Unit) := by
  refine confined_setSlot here (fun group => { group with cursor := cursor }) (fun _ => rfl)
    fun s => ?_
  rw [run_setCursor, GroupArena.setCursor, GroupArena.amend]
  cases s.tables.groups.group? id <;> rfl

theorem confined_join (here : Cell.group id ∈ region) (handle : Handle) :
    Confined region (fun _ => True) (join id handle : Action (Service FileTree κ) Unit) := by
  refine confined_setSlot here
    (fun group => { group with members := OrderedSet.insert group.members handle })
    (fun _ => rfl) fun s => ?_
  rw [run_join, GroupArena.join, GroupArena.amend]
  cases s.tables.groups.group? id <;> rfl

theorem confined_advance (here : Cell.group id ∈ region) (start count : Nat) :
    Confined region (fun _ => True)
      (advance id start count : Action (Service FileTree κ) Unit) := by
  rw [advance]
  split
  · exact confined_setCursor here _
  · exact .fail _

theorem confined_leave (here : Cell.group id ∈ region) (handle : Handle) :
    Confined region (fun row => Cell.row row ∈ region)
      (leave id handle : Action (Service FileTree κ) RowId) := by
  intro s t closed agree
  obtain ⟨same, free⟩ := agree.groups here
  have within := closed _ here
  rw [look] at within
  rw [run_leave, run_leave, GroupArena.leave_eq, GroupArena.leave_eq, ← same]
  cases live : s.tables.groups.group? id with
  | none => exact .error (.refl closed agree)
  | some group =>
      rw [live] at within same
      have row := within _ (.row group _)
      by_cases member : handle ∈ group.members
      · by_cases last : group.members.erase handle = ∅
        · simp only [if_pos member, if_pos last]
          refine .ok row (.of_writes closed agree here ?_ (writes_dissolve s live)
            (writes_dissolve t same.symm))
          rintro cell ⟨⟩
        · have right := writes_setSlot t same.symm
            (some { group with members := group.members.erase handle })
          rw [← free] at right
          simp only [if_pos member, if_neg last]
          refine .ok row (.of_writes closed agree here ?_ (writes_setSlot s live _) right)
          rintro cell ⟨⟩
          exact row
      · simp only [if_neg member]
        exact .error (.refl closed agree)

theorem confined_retain (here : Cell.row row ∈ region) :
    Confined region (fun _ => True) (retain row : Action (Service FileTree κ) Unit) := by
  intro s t closed agree
  have same := agree.rows here
  have within := closed _ here
  rw [look] at within
  rw [run_retain, run_retain, OpenTable.retain, OpenTable.retain, ← same]
  cases found : s.tables.system.holding? row with
  | none => exact .error (.refl closed agree)
  | some holding =>
      rw [found] at within same
      obtain ⟨object, handles⟩ := holding
      cases handles with
      | zero => exact .error (.refl closed agree)
      | succ handles =>
          refine .ok trivial (.of_writes closed agree here ?_ (writes_setRow s found _)
            (writes_setRow t same.symm _))
          rintro cell ⟨⟩
          exact within _ (.object _)

/-- A change of one node, alike in both states. -/
theorem Parallel.of_adjust {id : NodeId} (closed : Closed region s) (agree : Agree region s t)
    (here : Cell.node id ∈ region) (f : Node → Node) :
    Parallel region s t (s.withStorage (s.storage.adjust id f))
      (t.withStorage (t.storage.adjust id f)) := by
  have right := writes_adjust t id f
  rw [← agree.nodes here] at right
  refine .of_writes closed agree here ?_ (writes_adjust s id f) right
  rintro cell ⟨⟩

theorem confined_release (here : Cell.row row ∈ region) :
    Confined region (fun _ => True) (release row : Action (Service FileTree κ) Bool) := by
  intro s t closed agree
  have same := agree.rows here
  have within := closed _ here
  rw [look] at within
  rw [run_release, run_release, OpenTable.release, OpenTable.release, ← same]
  cases found : s.tables.system.holding? row with
  | none => exact .error (.refl closed agree)
  | some holding =>
      rw [found] at within same
      have node := within _ (.object holding)
      obtain ⟨object, handles⟩ := holding
      rcases handles with _ | _ | handles
      · exact .error (.refl closed agree)
      · have freed : Parallel region s t (s.withSystem (s.tables.system.setRow row none))
            (t.withSystem (t.tables.system.setRow row none)) := by
          refine .of_writes closed agree here ?_ (writes_setRow s found none)
            (writes_setRow t same.symm none)
          rintro cell ⟨⟩
        exact .ok trivial (freed.trans (.of_adjust freed.closed freed.agree node _))
      · refine .ok trivial (.of_writes closed agree here ?_ (writes_setRow s found _)
          (writes_setRow t same.symm _))
        rintro cell ⟨⟩
        exact node

end Steps

section Objects

variable {object : Object}

theorem readAt_eq_of_agree (agree : Agree region s t) (here : Cell.node object.node ∈ region)
    (position length : Nat) :
    object.read position length s.storage = object.read position length t.storage := by
  have same : Storage.readAt object position length s.storage =
      Storage.readAt object position length t.storage := by
    simp only [Storage.readAt, FileTree.readAt, agree.nodes here]
  rw [Object.read, same, ← Object.read]

theorem sizeOf_eq_of_agree (agree : Agree region s t) (here : Cell.node object.node ∈ region) :
    Storage.sizeOf object s.storage = Storage.sizeOf object t.storage := by
  simp only [Storage.sizeOf, FileTree.sizeOf, agree.nodes here]

theorem confined_write (here : Cell.node object.node ∈ region) (position : Nat) (data : Bytes) :
    Confined region (fun _ => True)
      (onStorage (object.write position data) :
        Action (Service FileTree κ) (Except Error Nat)) := by
  intro s t closed agree
  rw [run_onStorage, run_onStorage]
  by_cases nothing : data = []
  · rw [nothing, Object.write_nil, Object.write_nil]
    exact .ok trivial (.refl closed agree)
  · simp only [Object.write, if_neg nothing, Storage.writeAt, FileTree.writeAt,
      ← agree.nodes here, ← agree.granted]
    cases s.storage.node? object.node with
    | none => exact .ok trivial (.refl closed agree)
    | some node => exact .ok trivial (.of_adjust closed agree here _)

end Objects

section Operations

variable {pid : Pid} {fd old new : Descriptor} {id : GroupId}

/-- A table with another slot leads to the same groups, and to that of the slot. -/
theorem within_assign {table : DescriptorTable} (within : Within region (.process (some table)))
    (inRange : table.index? fd = some fd.number.toNat) (contents : Option Slot)
    (leads : ∀ id, contents = some (.shared id) → Cell.group id ∈ region) :
    Within region (.process (some (table.assign fd contents))) := by
  rintro cell ⟨⟩
  rename_i other id slot
  rw [DescriptorTable.slot?_assign inRange] at slot
  split at slot
  · exact leads id slot
  · exact within _ (.slot slot)

theorem confined_close (here : Cell.process pid ∈ region) (fd : Descriptor) :
    Confined region (fun _ => True)
      (close pid fd : Action (Service FileTree κ) Unit) := by
  refine (confined_process here).bind fun table within => ?_
  cases found : table.slot? fd with
  | none =>
      rw [DescriptorTable.clear_of_empty found]
      exact (Confined.refuse _).bind fun (_ : Slot × DescriptorTable) (never : False) => never.elim
  | some slot =>
      rw [DescriptorTable.clear_of_slot? found, orRefuse_ok, LawfulMonad.pure_bind]
      have kept := within_assign within (DescriptorTable.inRange_of_slot? found) none
        fun _ nothing => nomatch nothing
      refine (confined_setProcess here kept).bind fun _ _ => ?_
      cases slot with
      | stream stream => exact .pure trivial
      | shared id =>
          refine (confined_leave (within _ (.slot found)) _).bind fun row there => ?_
          refine (confined_release there).bind fun last _ => ?_
          split
          · exact confined_note _
          · exact .pure trivial

theorem confined_duplicate (here : Cell.process pid ∈ region) (old new : Descriptor) :
    Confined region (fun _ => True)
      (duplicate pid old new : Action (Service FileTree κ) Descriptor) := by
  refine (confined_process here).bind fun table within => ?_
  refine (Confined.orRefuse _).bind fun _ _ => ?_
  refine (Confined.orRefuse _).bind fun _ _ => ?_
  refine (Confined.orRefuse _).bind fun slot found => ?_
  have leads (id : GroupId) (shared : slot = .shared id) : Cell.group id ∈ region := by
    rw [shared] at found
    exact within _ (.slot (DescriptorTable.slot_eq_ok_iff.mp found))
  -- What is done once the new descriptor is empty, which it may have been all along.
  have install : Confined region (fun _ => True)
      (bindSlot pid new slot : Action (Service FileTree κ) Descriptor) := by
    refine (confined_process here).bind fun table within => ?_
    refine (Confined.orRefuse _).bind fun filled fill => ?_
    obtain ⟨inRange, rfl⟩ := DescriptorTable.eq_assign_of_fill fill
    have kept := within_assign within inRange (some slot) fun id shared =>
      leads id (Option.some.inj shared)
    refine (confined_setProcess here kept).bind fun _ _ => ?_
    cases slot with
    | stream stream => exact .pure trivial
    | shared id =>
        have there := leads id rfl
        refine (confined_group there).bind fun group row => ?_
        refine (confined_retain row).bind fun _ _ => ?_
        exact (confined_join there _).bind fun _ _ => .pure trivial
  split
  · exact .pure trivial
  · dsimp only
    split
    · exact (confined_close here new).attempt.bind fun _ _ => install
    · exact install

theorem confined_requireRights (here : Cell.process pid ∈ region) (asked : Rights) :
    Confined region (fun _ => True)
      (requireRights pid fd asked : Action (Service FileTree κ) Unit) := by
  have verdict (rights : Rights) : Confined region (fun _ => True)
      (if rights.cover asked then pure () else refuse .badAccessMode :
        Action (Service FileTree κ) Unit) := by
    split
    · exact .pure trivial
    · exact .refuse _
  refine (confined_slot here fd).bind fun slot leads => ?_
  cases slot with
  | stream stream => exact verdict stream.rights
  | shared id => exact (confined_group (leads id rfl)).bind fun group _ => verdict group.rights

theorem confined_tell (here : Cell.process pid ∈ region) :
    Confined region (fun _ => True) (tell pid fd : Action (Service FileTree κ) Nat) := by
  refine (confined_slot here fd).bind fun slot leads => ?_
  cases slot with
  | stream stream => exact .refuse _
  | shared id => exact (confined_group (leads id rfl)).bind fun group _ => .pure trivial

theorem confined_seek (here : Cell.process pid ∈ region) (distance : Int) (whence : Nat) :
    Confined region (fun _ => True)
      (seek pid fd distance whence : Action (Service FileTree κ) Nat) := by
  refine (confined_slot here fd).bind fun slot leads => ?_
  cases slot with
  | stream stream => exact .refuse _
  | shared id =>
      have there := leads id rfl
      refine (confined_objectBehind there).bind fun object node => ?_
      dsimp only
      split
      · split
        · exact .refuse _
        · rename_i base _
          refine (confined_group there).bind fun group _ => ?_
          refine Confined.get_bind (fun s t _ agree => ?_) fun s _ => ?_
          · have same : s.basePosition object group.cursor base =
                t.basePosition object group.cursor base := by
              cases base with
              | finish => exact sizeOf_eq_of_agree agree node
              | _ => rfl
            rw [same]
          · split
            · exact (confined_setCursor there _).bind fun _ _ => .pure trivial
            · exact .refuse _
      · exact .refuse _

theorem confined_readShared (here : Cell.group id ∈ region) (length : Nat) :
    Confined region (fun _ => True)
      (readShared id length : Action (Service FileTree κ) Bytes) := by
  refine (confined_group here).bind fun group _ => ?_
  split
  · exact .refuse _
  · split
    · exact .pure trivial
    · refine (confined_objectBehind here).bind fun object node => ?_
      refine Confined.get_bind (fun s t _ agree => ?_) fun s _ => ?_
      · rw [readAt_eq_of_agree agree node]
      · refine (Confined.orRefuse _).bind fun data _ => ?_
        exact (confined_advance here _ _).bind fun _ _ => .pure trivial

theorem confined_writeShared (here : Cell.group id ∈ region) (data : Bytes) :
    Confined region (fun _ => True)
      (writeShared id data : Action (Service FileTree κ) Nat) := by
  refine (confined_group here).bind fun group _ => ?_
  split
  · exact .refuse _
  · split
    · exact .pure trivial
    · refine (confined_objectBehind here).bind fun object node => ?_
      refine Confined.get_bind (fun s t _ agree => ?_) fun s _ => ?_
      · rw [sizeOf_eq_of_agree agree node]
      · refine (confined_write node _ _).bind fun answer _ => ?_
        refine (Confined.orRefuse _).bind fun count _ => ?_
        exact (confined_advance here _ _).bind fun _ _ => .pure trivial

end Operations

end Service

end OpenFiles
