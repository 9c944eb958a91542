import Mathlib.Algebra.Group.Int.Defs
import Mathlib.Algebra.Group.Nat.Defs
import OpenFiles.Console.MemoryConsole
import OpenFiles.FileTree.Storage
import OpenFiles.Proofs.Service.Appends

/-!
# Seeks are exact

A seek finds its target by adding a signed distance to an unsigned base. The sum is taken in the
integers: it is the new cursor if it is a word, whatever the base and the distance, and otherwise
the seek is refused. What is looked at before that comes in a fixed order, the process, the
descriptor, the kind of what is open, and the base asked for last: `seek_exact`.

The cursor belongs to the group. So all descriptors in the group see the move, of whatever
process, and no others do. A refused seek moves nothing.
-/

namespace OpenFiles

namespace SeekBase

theorem ofNumber?_eq_none_iff {whence : Nat} : ofNumber? whence = none ↔ 2 < whence := by
  match whence with
  | 0 | 1 | 2 => simp [ofNumber?]
  | n + 3 => simp [ofNumber?]

end SeekBase

namespace Service

open OpenFiles.Action

variable {σ κ : Type} [Storage σ] [ByteDevice κ]
variable {s later : Service σ κ} {pid : Pid} {fd : Descriptor} {distance : Int} {whence : Nat}
variable {id : GroupId} {file : OpenFile}

/-- A request is refused for a reason, and changes nothing. -/
def Refuses (s : Service σ κ) (request : Request) (reason : Error) : Prop :=
  (perform request).outcome s = (.error (.refused reason), s)

omit [ByteDevice κ] in
/-- The numbers that ask for a base, each with the position that the base stands for. -/
def bases (s : Service σ κ) (file : OpenFile) : List (Nat × Nat) :=
  [(0, 0), (1, file.cursor), (2, Storage.sizeOf file.object s.storage)]

/-- The cursor of a group is moved. All its members tell the new one, in whatever process; no
other group and nothing beside the groups has changed. -/
structure Sought (s : Service σ κ) (id : GroupId) (target : Nat) (later : Service σ κ) :
    Prop where
  told : ∀ handle, s.tables.slot? handle = some (.shared id) →
    ((perform (.tell handle.pid handle.descriptor)).outcome later).1 = .ok (.number target)
  here : later.tables.groups.group? id =
    (s.tables.groups.group? id).map fun group => { group with cursor := target }
  others : ∀ other, other ≠ id → later.tables.groups.group? other = s.tables.groups.group? other
  free : later.tables.groups.free = s.tables.groups.free
  frame : later.withGroups s.tables.groups = s

theorem outcome_seek (s : Service σ κ) (pid : Pid) (fd : Descriptor) (distance : Int)
    (whence : Nat) :
    (perform (.seek pid fd distance whence)).outcome s =
      match (seek pid fd distance whence).run s with
      | .ok target later => (.ok (.number target), later)
      | .error stop later => (.error stop, later) := by
  rw [outcome_eq, perform, EStateM.run_bind]
  cases (seek pid fd distance whence).run s <;> rfl

theorem sought_of_repositioning {target : Nat} {after : Tables}
    (shown : s.tables.file? id = some file)
    (repositioning : Tables.Repositioning s.tables id target s.tables.references after) :
    s.Sought id target (s.withTables after) := by
  obtain ⟨group, live, _, _, _⟩ := Tables.file?_eq_some.mp shown
  have step := repositioning.step
  rw [GroupArena.setCursor_of_live live] at step
  have groups : s.tables.groups.setSlot id (some (group.withCursor target)) = after.groups :=
    Except.ok.inj step
  have inRange := GroupArena.index_lt_of_group? live
  have system := repositioning.system
  have processes := repositioning.processes
  refine ⟨fun handle slot => ?_, ?_, fun other apart => ?_, ?_, ?_⟩
  · have moved : after.file? id = some { file with cursor := target } := by
      rw [repositioning.files, if_pos rfl, shown, Option.map_some]
    exact tell_of_file? (s := s.withTables after) repositioning.balanced
      ((repositioning.slot? handle).trans slot) moved
  · change after.groups.group? id = _
    rw [← groups, GroupArena.group?_setSlot _ inRange, if_pos rfl, live]
    rfl
  · change after.groups.group? other = _
    rw [← groups, GroupArena.group?_setSlot _ inRange, if_neg (Ne.symm apart)]
  · change after.groups.free = _
    rw [← groups, GroupArena.free_setSlot]
  · obtain ⟨_, _, _⟩ := after
    subst system processes
    rfl

/-- A seek without anything behind the descriptor. -/
theorem seek_unresolved {reason : Error} (why : s.tables.Unresolved ⟨pid, fd⟩ reason) :
    s.Refuses (.seek pid fd distance whence) reason := by
  have run : (seek pid fd distance whence).run s = .error (.refused reason) s := by
    cases why with
    | unknown missing => simp only [seek, EStateM.run_bind, run_slot, missing]
    | empty found empty => simp only [seek, EStateM.run_bind, run_slot, found, empty]
  rw [Refuses, outcome_seek, run]

/-- The standard streams have no cursor. -/
theorem seek_stream {stream : StandardStream}
    (slot : s.tables.slot? ⟨pid, fd⟩ = some (.stream stream)) :
    s.Refuses (.seek pid fd distance whence) .illegalSeek := by
  have run : (seek pid fd distance whence).run s = .error (.refused .illegalSeek) s := by
    obtain ⟨reason, why, _⟩ | ⟨contents, found, run⟩ := run_slot_cases s pid fd
    · cases why.slot?.symm.trans slot
    · cases found.symm.trans slot
      simp only [seek, EStateM.run_bind, run]
      rfl
  rw [Refuses, outcome_seek, run]

theorem seek_unseekable (slot : s.tables.slot? ⟨pid, fd⟩ = some (.shared id))
    (shown : s.tables.file? id = some file) (positionless : file.object.kind.isSeekable = false) :
    s.Refuses (.seek pid fd distance whence) .illegalSeek := by
  rw [Refuses, outcome_seek, run_seek_of_file? slot shown, positionless]
  rfl

theorem seek_baseless (slot : s.tables.slot? ⟨pid, fd⟩ = some (.shared id))
    (shown : s.tables.file? id = some file) (seekable : file.object.kind.isSeekable = true)
    (unknown : 2 < whence) : s.Refuses (.seek pid fd distance whence) .invalidArgument := by
  rw [Refuses, outcome_seek, run_seek_of_file? slot shown, seekable,
    SeekBase.ofNumber?_eq_none_iff.mpr unknown]
  rfl

omit [ByteDevice κ] in
/-- The bases are the ones that the numbers ask for. -/
theorem run_seek_of_bases {base : Nat} (slot : s.tables.slot? ⟨pid, fd⟩ = some (.shared id))
    (shown : s.tables.file? id = some file) (seekable : file.object.kind.isSeekable = true)
    (asked : (whence, base) ∈ s.bases file) :
    (seek pid fd distance whence).run s = (settle id (base + distance)).run s := by
  have known : ∃ name, SeekBase.ofNumber? whence = some name ∧
      s.basePosition file.object file.cursor name = base := by
    simp only [bases, List.mem_cons, Prod.mk.injEq, List.not_mem_nil, or_false] at asked
    obtain ⟨rfl, rfl⟩ | ⟨rfl, rfl⟩ | ⟨rfl, rfl⟩ := asked
    · exact ⟨.start, rfl, rfl⟩
    · exact ⟨.current, rfl, rfl⟩
    · exact ⟨.finish, rfl, rfl⟩
  obtain ⟨name, number, position⟩ := known
  rw [run_seek_of_file? slot shown, seekable, number, ← position]
  rfl

/-- The target is a word: it is answered, and it is where the cursor is then. -/
theorem seek_inside {base : Nat} (balanced : s.tables.Balanced)
    (slot : s.tables.slot? ⟨pid, fd⟩ = some (.shared id)) (shown : s.tables.file? id = some file)
    (seekable : file.object.kind.isSeekable = true) (asked : (whence, base) ∈ s.bases file)
    (inside : 0 ≤ base + distance ∧ base + distance ≤ 2 ^ 64 - 1) :
    ∃ (target : Nat) (later : Service σ κ), (target : Int) = base + distance ∧
      (perform (.seek pid fd distance whence)).outcome s = (.ok (.number target), later) ∧
        s.Sought id target later := by
  have word : 0 ≤ base + distance ∧ base + distance < wordLimit := by
    have limit : (wordLimit : Int) = 2 ^ 64 := rfl
    omega
  obtain ⟨after, moves⟩ := Tables.Accounts.repositioning balanced
    (Tables.mem_references_iff.mpr slot) (base + distance).toNat
  refine ⟨(base + distance).toNat, s.withTables after, Int.toNat_of_nonneg inside.1, ?_,
    sought_of_repositioning shown moves⟩
  rw [outcome_seek, run_seek_of_bases slot shown seekable asked, settle, if_pos word]
  simp only [EStateM.run_bind, run_setCursor_of_repositioning moves, EStateM.run_pure]

/-- The target is no word. -/
theorem seek_outside {base : Nat} (slot : s.tables.slot? ⟨pid, fd⟩ = some (.shared id))
    (shown : s.tables.file? id = some file) (seekable : file.object.kind.isSeekable = true)
    (asked : (whence, base) ∈ s.bases file)
    (outside : ¬ (0 ≤ base + distance ∧ base + distance ≤ 2 ^ 64 - 1)) :
    s.Refuses (.seek pid fd distance whence) .invalidArgument := by
  have noWord : ¬ (0 ≤ base + distance ∧ base + distance < wordLimit) := by
    have limit : (wordLimit : Int) = 2 ^ 64 := rfl
    omega
  rw [Refuses, outcome_seek, run_seek_of_bases slot shown seekable asked, settle, if_neg noWord]
  rfl

/-- A seek, for every process, descriptor, distance and base, is decided in this order. The
process and the descriptor have to be there; streams and devices take no seek, whatever base is
asked for; the base has to be known. Then the seek is granted exactly if the base and the
distance add up to a word, which is answered and becomes the cursor of the one group. -/
theorem seek_exact {outside : σ → σ → Prop} (reached : Reachable outside s) (pid : Pid)
    (fd : Descriptor) (distance : Int) (whence : Nat) :
    (pid ∉ s.tables.processes → s.Refuses (.seek pid fd distance whence) .noSuchEntry) ∧
    (pid ∈ s.tables.processes → s.tables.slot? ⟨pid, fd⟩ = none →
      s.Refuses (.seek pid fd distance whence) .badDescriptor) ∧
    (∀ stream, s.tables.slot? ⟨pid, fd⟩ = some (.stream stream) →
      s.Refuses (.seek pid fd distance whence) .illegalSeek) ∧
    ∀ id, s.tables.slot? ⟨pid, fd⟩ = some (.shared id) → ∃ file, s.tables.file? id = some file ∧
      (file.object.kind = .charDevice ∨ file.object.kind = .blockDevice →
        s.Refuses (.seek pid fd distance whence) .illegalSeek) ∧
      (file.object.kind = .regular ∨ file.object.kind = .directory →
        (2 < whence → s.Refuses (.seek pid fd distance whence) .invalidArgument) ∧
        ∀ base, (whence, base) ∈ s.bases file →
          (0 ≤ base + distance ∧ base + distance ≤ 2 ^ 64 - 1 →
            ∃ (target : Nat) (later : Service σ κ), (target : Int) = base + distance ∧
              (perform (.seek pid fd distance whence)).outcome s = (.ok (.number target), later) ∧
                s.Sought id target later) ∧
          (¬ (0 ≤ base + distance ∧ base + distance ≤ 2 ^ 64 - 1) →
            s.Refuses (.seek pid fd distance whence) .invalidArgument)) := by
  have balanced := reached.balanced
  refine ⟨fun missing => ?_, fun known vacant => ?_, fun stream slot => seek_stream slot,
    fun id slot => ?_⟩
  · exact seek_unresolved (.unknown (OrderedMap.not_mem_iff.mp missing))
  · obtain ⟨table, found⟩ := OrderedMap.mem_iff.mp known
    rw [Tables.slot?, found, Option.bind_some] at vacant
    exact seek_unresolved (.empty found vacant)
  · obtain ⟨file, shown⟩ := balanced.exists_file slot
    refine ⟨file, shown, fun device => seek_unseekable slot shown ?_, fun positioned => ?_⟩
    · rcases device with kind | kind <;> rw [kind] <;> rfl
    · have seekable : file.object.kind.isSeekable = true := by
        rcases positioned with kind | kind <;> rw [kind] <;> rfl
      exact ⟨seek_baseless slot shown seekable, fun base asked =>
        ⟨seek_inside balanced slot shown seekable asked,
          seek_outside slot shown seekable asked⟩⟩

/-- A parent and its child move their cursor to the last word but one. From there the next
position can be reached, and the one behind it cannot. -/
theorem seek_exact_at_the_end :
    ∃ start s later : Service FileTree MemoryConsole,
      build ⟨4, 6⟩ FileTree.initial (.ofCapacity 4) = .ok start ∧
      start.after [.createProcess ⟨1⟩, .openPath ⟨1⟩ "/f" (.ofBits 6) 0, .forkProcess ⟨1⟩ ⟨2⟩,
        .seek ⟨1⟩ ⟨3⟩ (2 ^ 63 - 1) 0, .seek ⟨2⟩ ⟨3⟩ (2 ^ 63 - 1) 1] = s ∧
      (perform (.seek ⟨1⟩ ⟨3⟩ 1 1)).outcome s = (.ok (.number (2 ^ 64 - 1)), later) ∧
      ((perform (.tell ⟨2⟩ ⟨3⟩)).outcome later).1 = .ok (.number (2 ^ 64 - 1)) ∧
      s.Refuses (.seek ⟨1⟩ ⟨3⟩ 2 1) .invalidArgument := by
  have built : build ⟨4, 6⟩ FileTree.initial (MemoryConsole.ofCapacity 4) = .ok _ := rfl
  have reached : Reachable Eq _ := Reachable.built built
  have before := reached.after [.createProcess ⟨1⟩, .openPath ⟨1⟩ "/f" (.ofBits 6) 0,
    .forkProcess ⟨1⟩ ⟨2⟩, .seek ⟨1⟩ ⟨3⟩ (2 ^ 63 - 1) 0, .seek ⟨2⟩ ⟨3⟩ (2 ^ 63 - 1) 1]
  generalize same : (Service.after _ _ : Service FileTree MemoryConsole) = s at before
  have parent : s.tables.slot? ⟨⟨1⟩, ⟨3⟩⟩ = some (.shared ⟨0⟩) := by rw [← same]; rfl
  have child : s.tables.slot? ⟨⟨2⟩, ⟨3⟩⟩ = some (.shared ⟨0⟩) := by rw [← same]; rfl
  have behind : s.tables.file? ⟨0⟩ =
      some ⟨⟨⟨5, by decide⟩, .regular, ⟨4⟩⟩, 2 ^ 64 - 2, ⟨true, true, false⟩⟩ := by
    rw [← same]
    rfl
  have near (distance : Int) := (seek_exact before ⟨1⟩ ⟨3⟩ distance 1).2.2.2 ⟨0⟩ parent
  obtain ⟨file, shown, _, positioned⟩ := near 1
  cases behind.symm.trans shown
  obtain ⟨target, later, exact, granted, sought⟩ :=
    ((positioned (.inl rfl)).2 (2 ^ 64 - 2) (.tail _ (.head _))).1 (by decide)
  have last : target = 2 ^ 64 - 1 := by omega
  rw [last] at granted sought
  obtain ⟨file', shown', _, positioned'⟩ := near 2
  cases behind.symm.trans shown'
  have refused := ((positioned' (.inl rfl)).2 (2 ^ 64 - 2) (.tail _ (.head _))).2 (by decide)
  exact ⟨_, s, later, built, same, granted, sought.told ⟨⟨2⟩, ⟨3⟩⟩ child, refused⟩

end Service

end OpenFiles
