import OpenFiles.Proofs.Service.Cursors

/-!
# Which open a group comes from

A group shows the object it was founded on, under the rights it was founded with, for
as long as it lives: `lineage_next` says so of every request, duplications and forks
included. `OpenedWith` names the flags of the open that founded a group, and every
group of a service has such an open behind it.
-/

namespace OpenFiles

namespace Service

open OpenFiles.Action

variable {σ κ : Type} [Storage σ] [ByteDevice κ] {outside : σ → σ → Prop} {s : Service σ κ}
variable {id : GroupId} {flags : OpenFlags} {file : OpenFile} {request : Request}

/-- A request founds a group: it is an open, answered by a descriptor that refers to the
group, and the group's rights are those that its flags ask for. -/
inductive Founds (s : Service σ κ) : Request → GroupId → OpenFlags → Rights → Prop
  | opened {pid : Pid} {path : String} {flags : OpenFlags} {permission : UInt32}
      {fd : Descriptor} {id : GroupId} {rights : Rights}
      (answer : ((perform (.openPath pid path flags permission)).outcome s).1 =
        .ok (.descriptor fd))
      (slot : (s.next (.openPath pid path flags permission)).tables.slot? ⟨pid, fd⟩ =
        some (.shared id))
      (asked : Rights.ofOpenFlags flags = .ok rights) (unused : s.tables.file? id = none) :
      Founds s (.openPath pid path flags permission) id flags rights

/-- What a request makes of the groups: they descend from those before, but for one that
an open may found. -/
def Continues (s : Service σ κ) (request : Request) : Prop :=
  ∀ id file, (s.next request).tables.file? id = some file →
    (∃ before, s.tables.file? id = some before ∧ before.object = file.object ∧
      before.rights = file.rights) ∨
    ∃ flags, Founds s request id flags file.rights

/-- No request changes the object or the rights of a group, and only opens found groups. -/
theorem lineage_next (balanced : s.tables.Balanced) (request : Request) : Continues s request := by
  intro id file shown
  cases shows_next balanced shown with
  | kept before => exact .inl ⟨file, before, rfl, rfl⟩
  | @read pid fd length id before data slot there granted answer inside =>
      exact .inl ⟨before, there, rfl, rfl⟩
  | @wrote pid fd data id before count store slot there positive granted answer inside =>
      exact .inl ⟨before, there, rfl, rfl⟩
  | @sought pid fd distance whence id before target slot there seekable answer inside =>
      exact .inl ⟨before, there, rfl, rfl⟩
  | founded asked granted answer slot unused =>
      exact .inr ⟨_, .opened answer slot asked unused⟩

/-- The group was founded by an open with the flags, and has been live since. -/
inductive OpenedWith (outside : σ → σ → Prop) (id : GroupId) (flags : OpenFlags) :
    Service σ κ → Prop
  | founded {s : Service σ κ} {request : Request} {rights : Rights}
      (reached : Reachable outside s) (founds : Founds s request id flags rights) :
      OpenedWith outside id flags (s.next request)
  | next {s : Service σ κ} {file : OpenFile} (opened : OpenedWith outside id flags s)
      (request : Request) (live : (s.next request).tables.file? id = some file) :
      OpenedWith outside id flags (s.next request)
  | storage {s : Service σ κ} {store : σ} (opened : OpenedWith outside id flags s)
      (change : outside s.storage store) : OpenedWith outside id flags (s.withStorage store)
  | console {s : Service σ κ} (opened : OpenedWith outside id flags s) (console : κ) :
      OpenedWith outside id flags (s.withConsole console)
  | memory {s : Service σ κ} (opened : OpenedWith outside id flags s) (allotment : Allotment) :
      OpenedWith outside id flags (s.withAllotment allotment)

theorem OpenedWith.reachable (opened : OpenedWith outside id flags s) : Reachable outside s := by
  induction opened with
  | founded reached founds => exact reached.next _
  | next opened request live ih => exact ih.next request
  | storage opened change ih => exact ih.storage change
  | console opened console ih => exact ih.console console
  | memory opened allotment ih => exact ih.memory allotment

/-- A group has, for as long as it lives, the rights that its open asked for. -/
theorem OpenedWith.rights (opened : OpenedWith outside id flags s) :
    ∃ file, s.tables.file? id = some file ∧ Rights.ofOpenFlags flags = .ok file.rights := by
  induction opened with
  | @founded s request rights reached founds =>
      have continues := lineage_next reached.balanced request
      have balanced := (reached.next request).balanced
      cases founds with
      | opened answer slot asked unused =>
          obtain ⟨file, shown⟩ := balanced.exists_file slot
          rcases continues id file shown with ⟨before, live, _⟩ | ⟨flags', founds⟩
          · rw [unused] at live
            cases live
          · cases founds with
            | opened _ _ asked _ => exact ⟨file, shown, asked⟩
  | @next s file opened request live ih =>
      obtain ⟨before, shown, asked⟩ := ih
      refine ⟨file, live, ?_⟩
      rcases lineage_next opened.reachable.balanced request id file live with
        ⟨before', shown', _, same⟩ | ⟨_, founds⟩
      · rw [shown, Option.some.injEq] at shown'
        rw [asked, shown', same]
      · cases founds with
        | opened _ _ _ unused =>
            rw [shown] at unused
            cases unused
  | storage opened change ih => exact ih
  | console opened console ih => exact ih
  | memory opened allotment ih => exact ih

/-- Every group comes from an open. -/
theorem exists_openedWith (reached : Reachable outside s) (shown : s.tables.file? id = some file) :
    ∃ flags, OpenedWith outside id flags s := by
  induction reached generalizing file with
  | built built =>
      obtain ⟨handle, member⟩ := (balanced_of_build built).exists_reference_of_file? shown
      obtain ⟨system, tables, _⟩ := tables_of_build built
      rw [tables] at member
      exact absurd member List.not_mem_nil
  | next reached request ih =>
      rcases lineage_next reached.balanced request id file shown with
        ⟨before, live, _⟩ | ⟨flags, founds⟩
      · obtain ⟨flags, opened⟩ := ih live
        exact ⟨flags, opened.next request shown⟩
      · exact ⟨flags, .founded reached founds⟩
  | storage reached change ih =>
      obtain ⟨flags, opened⟩ := ih shown
      exact ⟨flags, opened.storage change⟩
  | console reached console ih =>
      obtain ⟨flags, opened⟩ := ih shown
      exact ⟨flags, opened.console console⟩
  | memory reached allotment ih =>
      obtain ⟨flags, opened⟩ := ih shown
      exact ⟨flags, opened.memory allotment⟩

end Service

end OpenFiles
