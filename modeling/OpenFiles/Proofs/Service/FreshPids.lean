import OpenFiles.Proofs.Pids
import OpenFiles.Proofs.Service.Surroundings

/-!
# Identifiers for new processes

Whoever spawns or forks a process without naming it tries one identifier after the other from a
counter on, and moves the counter at each try. `Tries` is this loop, without a bound on the
tries. It ends as long as some identifier has no process: a spawn, and a fork of a process
that exists, end with the first such identifier, and the counter behind it.

Each try is one step of the counter. As long as there were fewer tries than there are words,
no identifier is given out twice, whatever processes were created by name or ended meanwhile. So
what is still done in the name of a process that has ended never reaches the table of one that
was given out later.
-/

namespace OpenFiles

/-- What a process itself may ask for. -/
def Request.MadeBy (pid : Pid) : Request → Prop
  | .createProcess _ => False
  | .spawn => False
  | .forkProcess _ _ => False
  | .fork parent => parent = pid
  | .endProcess other => other = pid
  | .openPath other _ _ _ => other = pid
  | .close other _ => other = pid
  | .duplicate other _ _ => other = pid
  | .requireRights other _ _ => other = pid
  | .read other _ _ => other = pid
  | .write other _ _ => other = pid
  | .seek other _ _ _ => other = pid
  | .tell other _ => other = pid
  | .members other _ => other = pid
  | .workingDirectory => True
  | .remove _ => True

/-- What happens to a service: a request, or a change of its storage, of its console or of what
memory grants by others. -/
inductive Happening (σ κ : Type) where
  | request (request : Request)
  | storage (store : σ)
  | console (console : κ)
  | memory (allotment : Allotment)

namespace Service

variable {σ κ α : Type} {s after : Service σ κ} {pid parent child : Pid}

open OpenFiles.Action

/-! ### The loop -/

/-- So many tries of a loop that takes an identifier from the counter and attempts to use it,
as long as the attempt is refused because the identifier is in use. -/
inductive Tries (attempt : Pid → Action (Service σ κ) Unit) :
    Nat → Service σ κ → EStateM.Result Stop (Service σ κ) Pid → Prop
  | granted {s after : Service σ κ}
      (answer : (attempt s.pidCounter).run (s.withCounter s.pidCounter.next) = .ok () after) :
      Tries attempt 1 s (.ok s.pidCounter after)
  | stopped {s after : Service σ κ} {stop : Stop}
      (answer : (attempt s.pidCounter).run (s.withCounter s.pidCounter.next) = .error stop after)
      (final : stop ≠ .refused .busy) : Tries attempt 1 s (.error stop after)
  | again {s after : Service σ κ} {count : Nat} {result : EStateM.Result Stop (Service σ κ) Pid}
      (answer : (attempt s.pidCounter).run (s.withCounter s.pidCounter.next) =
        .error (.refused .busy) after)
      (rest : Tries attempt count after result) : Tries attempt (count + 1) s result

section Loop

variable {attempt : Pid → Action (Service σ κ) Unit}

/-- The loop has one end at most. -/
theorem Tries.unique {count count' : Nat} {result result' : EStateM.Result Stop (Service σ κ) Pid}
    (tries : Tries attempt count s result) (tries' : Tries attempt count' s result') :
    count = count' ∧ result = result' := by
  induction tries generalizing count' with
  | granted answer =>
      cases tries' with
      | granted answer' =>
          cases answer.symm.trans answer'
          exact ⟨rfl, rfl⟩
      | stopped answer' final => cases answer.symm.trans answer'
      | again answer' rest => cases answer.symm.trans answer'
  | stopped answer final =>
      cases tries' with
      | granted answer' => cases answer.symm.trans answer'
      | stopped answer' final' =>
          cases answer.symm.trans answer'
          exact ⟨rfl, rfl⟩
      | again answer' rest =>
          cases answer.symm.trans answer'
          exact (final rfl).elim
  | again answer rest ih =>
      cases tries' with
      | granted answer' => cases answer.symm.trans answer'
      | stopped answer' final =>
          cases answer.symm.trans answer'
          exact (final rfl).elim
      | again answer' rest' =>
          cases answer.symm.trans answer'
          obtain ⟨rfl, same⟩ := ih rest'
          exact ⟨rfl, same⟩

theorem Tries.iff {count count' : Nat} {result result' : EStateM.Result Stop (Service σ κ) Pid}
    (tries : Tries attempt count s result) :
    Tries attempt count' s result' ↔ count' = count ∧ result' = result := by
  constructor
  · exact fun tries' => tries'.unique tries
  · rintro ⟨rfl, rfl⟩
    exact tries

/-- An attempt that is not refused for being busy is the last. -/
theorem tries_once
    (settled : ∀ after, (attempt s.pidCounter).run (s.withCounter s.pidCounter.next) ≠
      .error (.refused .busy) after) :
    Tries attempt 1 s
      ((attempt s.pidCounter >>= fun _ => pure s.pidCounter).run
        (s.withCounter s.pidCounter.next)) := by
  rw [EStateM.run_bind]
  cases answer : (attempt s.pidCounter).run (s.withCounter s.pidCounter.next) with
  | ok done after => exact .granted answer
  | error stop after =>
      refine .stopped answer ?_
      rintro rfl
      exact settled after answer

/-- Tries of identifiers that are in use do nothing but move the counter. -/
theorem tries_ahead {steps : Nat} {result : EStateM.Result Stop (Service σ κ) Pid}
    (busy : ∀ step < steps, ∀ counter,
      (attempt (s.pidCounter.ahead step)).run (s.withCounter counter) =
        .error (.refused .busy) (s.withCounter counter))
    (last : Tries attempt 1 (s.withCounter (s.pidCounter.ahead steps)) result) :
    Tries attempt (steps + 1) s result := by
  induction steps generalizing s with
  | zero =>
      rw [Pid.ahead_zero] at last
      exact last
  | succ steps ih =>
      have first := busy 0 (Nat.succ_pos steps) s.pidCounter.next
      rw [Pid.ahead_zero] at first
      refine .again first (ih ?_ ?_)
      · intro step less counter
        have later := busy (step + 1) (Nat.succ_lt_succ less) counter
        rw [← Pid.next_ahead] at later
        exact later
      · rw [← Pid.next_ahead] at last
        exact last

end Loop

/-! ### The identifier that comes up next -/

/-- How many identifiers in a row, from the counter on, are in use. -/
def stride (s : Service σ κ) : Nat := s.pidCounter.stepsTo s.freshPid

/-- The identifier that comes up next is the first that no process has. -/
theorem freshPid_spec (small : s.tables.processes.size < wordLimit) :
    s.stride ≤ s.tables.processes.size ∧ s.freshPid = s.pidCounter.ahead s.stride ∧
      (∀ step < s.stride, s.pidCounter.ahead step ∈ s.tables.processes) ∧
      s.freshPid ∉ s.tables.processes := by
  obtain ⟨steps, within, found, before, free⟩ := Pid.firstFree_spec small s.pidCounter
  have fresh : s.freshPid = s.pidCounter.ahead steps := found
  have length : s.stride = steps := by
    rw [stride, fresh]
    exact Pid.stepsTo_ahead _ (Nat.lt_of_le_of_lt within small)
  rw [length, fresh]
  exact ⟨within, rfl, before, free⟩

theorem run_createProcess_busy (present : pid ∈ s.tables.processes) :
    (createProcess pid).run s = .error (.refused .busy) s := by
  simp only [createProcess, EStateM.run_bind, EStateM.run_get]
  rw [if_pos (OrderedMap.contains_iff.mpr present)]
  rfl

theorem run_forkProcess_busy (balanced : s.tables.Balanced) (known : parent ∈ s.tables.processes)
    (present : child ∈ s.tables.processes) :
    (forkProcess parent child).run s = .error (.refused .busy) s := by
  have outcome : Forking s parent child _ := forking balanced
  generalize (forkProcess parent child).run s = result at outcome
  cases outcome with
  | unknown missing => exact absurd known (OrderedMap.not_mem_iff.mpr missing)
  | taken found present => rfl
  | forked found fresh arrivals => exact absurd present fresh

/-- What forking a process into the identifier that comes up next can do. -/
theorem forking_fresh (balanced : s.tables.Balanced) (parent : Pid) :
    Forking (s.withCounter s.freshPid.next) parent s.freshPid
      ((forkProcess parent s.freshPid).run (s.withCounter s.freshPid.next)) := by
  have counted : (s.withCounter s.freshPid.next).tables.Balanced := balanced
  exact forking counted

/-- A spawn is the end of its loop. -/
theorem tries_spawn (small : s.tables.processes.size < wordLimit) :
    Tries createProcess (s.stride + 1) s (spawn.run s) := by
  obtain ⟨_, found, before, free⟩ := freshPid_spec small
  refine tries_ahead ?_ ?_
  · intro step less counter
    exact run_createProcess_busy (before step less)
  · rw [run_spawn, ← found]
    refine tries_once (s := s.withCounter s.freshPid) ?_
    intro after refused
    have outcome := creating (s.withCounter s.freshPid.next) s.freshPid
    rw [show (createProcess s.freshPid).run (s.withCounter s.freshPid.next) = _ from refused]
      at outcome
    cases outcome with
    | taken present => exact free present

/-- A fork of a process that exists is the end of its loop. -/
theorem tries_fork (balanced : s.tables.Balanced) (small : s.tables.processes.size < wordLimit)
    (known : parent ∈ s.tables.processes) :
    Tries (forkProcess parent) (s.stride + 1) s ((fork parent).run s) := by
  obtain ⟨_, found, before, free⟩ := freshPid_spec small
  refine tries_ahead ?_ ?_
  · intro step less counter
    have counted : (s.withCounter counter).tables.Balanced := balanced
    exact run_forkProcess_busy counted known (before step less)
  · rw [run_fork, if_pos (OrderedMap.contains_iff.mpr known), ← found]
    refine tries_once (s := s.withCounter s.freshPid) ?_
    intro after refused
    have outcome := forking_fresh balanced parent
    rw [show (forkProcess parent s.freshPid).run (s.withCounter s.freshPid.next) = _ from refused]
      at outcome
    cases outcome with
    | taken found present => exact free present

/-- A fork of an unknown process ends with the first try. -/
theorem tries_fork_unknown (balanced : s.tables.Balanced) (unknown : parent ∉ s.tables.processes) :
    Tries (forkProcess parent) 1 s ((fork parent).run s) ∧
      (fork parent).run s = .error (.refused .noSuchEntry) (s.withCounter s.pidCounter.next) := by
  have run : (fork parent).run s =
      .error (.refused .noSuchEntry) (s.withCounter s.pidCounter.next) := by
    rw [run_fork, if_neg (mt OrderedMap.contains_iff.mp unknown)]
  refine ⟨?_, run⟩
  have counted : (s.withCounter s.pidCounter.next).tables.Balanced := balanced
  have outcome : Forking _ parent s.pidCounter _ := forking counted
  rw [run]
  refine .stopped ?_ (by decide)
  generalize (forkProcess parent s.pidCounter).run (s.withCounter s.pidCounter.next) = result
    at outcome
  cases outcome with
  | unknown missing => rfl
  | taken found present => exact absurd (OrderedMap.mem_iff.mpr ⟨_, found⟩) unknown
  | forked found fresh arrivals => exact absurd (OrderedMap.mem_iff.mpr ⟨_, found⟩) unknown

/-- What a service does when it gives out an identifier: it is the first from the counter on
that no process had, the counter is behind it then, and no other process notices. -/
structure Allotted (s : Service σ κ) (pid : Pid) (after : Service σ κ) : Prop where
  fresh : pid ∉ s.tables.processes
  place : pid = s.pidCounter.ahead s.stride
  before : ∀ step < s.stride, s.pidCounter.ahead step ∈ s.tables.processes
  others : ∀ other, other ≠ pid →
    after.tables.processes.get? other = s.tables.processes.get? other
  counter : after.pidCounter = pid.next

theorem allotted_of_spawn (small : s.tables.processes.size < wordLimit)
    (ran : spawn.run s = .ok pid after) : Allotted s pid after := by
  obtain ⟨_, found, before, free⟩ := freshPid_spec small
  rw [run_spawn] at ran
  obtain ⟨_, _, created, rest⟩ := ok_of_bind ran
  cases rest
  have outcome := creating (s.withCounter s.freshPid.next) s.freshPid
  rw [created] at outcome
  have sparing : Sparing True _ _ after := outcome.sparing
  exact ⟨free, found, before, sparing.others, sparing.counter⟩

theorem allotted_of_fork (balanced : s.tables.Balanced)
    (small : s.tables.processes.size < wordLimit) (ran : (fork parent).run s = .ok pid after) :
    Allotted s pid after := by
  obtain ⟨_, found, before, free⟩ := freshPid_spec small
  rw [run_fork] at ran
  split at ran
  · obtain ⟨_, _, forked, rest⟩ := ok_of_bind ran
    cases rest
    have outcome := forking_fresh balanced parent
    rw [forked] at outcome
    have sparing : Sparing True _ _ after := outcome.sparing
    exact ⟨free, found, before, sparing.others, sparing.counter⟩
  · cases ran

/-! ### Runs -/

section Runs

variable {σ κ : Type} [Storage σ] [ByteDevice κ] {s after : Service σ κ} {pid other : Pid}

/-- A fork changes the table of no process that exists. -/
theorem get?_next_fork (balanced : s.tables.Balanced) {parent : Pid} {table : DescriptorTable}
    (found : s.tables.processes.get? other = some table) :
    (s.next (.fork parent)).tables.processes.get? other = some table := by
  rw [next_eq, perform, stateOf_map, run_fork]
  split
  · have outcome := forking_fresh balanced parent
    rw [stateOf_map]
    generalize (forkProcess parent s.freshPid).run _ = result at outcome
    cases outcome with
    | unknown missing => exact found
    | taken known present => exact found
    | forked known fresh arrivals =>
        refine (OrderedMap.get?_insert_of_ne _ ?_ _).trans found
        rintro rfl
        exact fresh (OrderedMap.mem_iff.mpr ⟨table, found⟩)
  · exact found

/-- What a process asks for changes the table of no other process that exists. -/
theorem get?_next_of_madeBy (balanced : s.tables.Balanced) {request : Request}
    (made : request.MadeBy pid) (apart : other ≠ pid) {table : DescriptorTable}
    (found : s.tables.processes.get? other = some table) :
    (s.next request).tables.processes.get? other = some table := by
  cases request with
  | createProcess _ => exact made.elim
  | spawn => exact made.elim
  | forkProcess _ _ => exact made.elim
  | fork parent => exact get?_next_fork balanced found
  | endProcess _ => exact (get?_next balanced (made ▸ apart)).trans found
  | openPath _ _ _ _ => exact (get?_next balanced (made ▸ apart)).trans found
  | close _ _ => exact (get?_next balanced (made ▸ apart)).trans found
  | duplicate _ _ _ => exact (get?_next balanced (made ▸ apart)).trans found
  | _ => exact (get?_next balanced id).trans found

def undergo (s : Service σ κ) : Happening σ κ → Service σ κ
  | .request request => s.next request
  | .storage store => s.withStorage store
  | .console console => s.withConsole console
  | .memory allotment => s.withAllotment allotment

def through (s : Service σ κ) (run : List (Happening σ κ)) : Service σ κ := run.foldl undergo s

def tries (s : Service σ κ) : Happening σ κ → Nat
  | .request .spawn => s.stride + 1
  | .request (.fork parent) => if parent ∈ s.tables.processes then s.stride + 1 else 1
  | _ => 0

def triesAlong (s : Service σ κ) : List (Happening σ κ) → Nat
  | [] => 0
  | happening :: rest => s.tries happening + (s.undergo happening).triesAlong rest

/-- The identifier that a spawn or a fork answers. -/
def allotted? (s : Service σ κ) : Happening σ κ → Option Pid
  | .request .spawn =>
    match spawn.run s with
    | .ok pid _ => some pid
    | .error _ _ => none
  | .request (.fork parent) =>
    match (fork parent).run s with
    | .ok pid _ => some pid
    | .error _ _ => none
  | _ => none

/-- The identifiers that the spawns and forks of a run answer, in order. -/
def allottedAlong (s : Service σ κ) : List (Happening σ κ) → List Pid
  | [] => []
  | happening :: rest =>
    (s.allotted? happening).toList ++ (s.undergo happening).allottedAlong rest

theorem balanced_undergo (balanced : s.tables.Balanced) (happening : Happening σ κ) :
    (s.undergo happening).tables.Balanced := by
  cases happening with
  | request request => exact balanced_next balanced request
  | storage store => exact balanced
  | console console => exact balanced
  | memory allotment => exact balanced

/-- The invariants of the tables survive a run. -/
theorem sound_through (balanced : s.tables.Balanced) (bounded : s.Bounded)
    (run : List (Happening σ κ)) :
    (s.through run).tables.Balanced ∧ (s.through run).Bounded := by
  induction run generalizing s with
  | nil => exact ⟨balanced, bounded⟩
  | cons happening rest ih =>
      refine ih (balanced_undergo balanced happening) ?_
      cases happening with
      | request request => exact bounded_next balanced bounded request
      | storage store => exact ⟨bounded.small, bounded.uniform⟩
      | console console => exact ⟨bounded.small, bounded.uniform⟩
      | memory allotment => exact ⟨bounded.small, bounded.uniform⟩

omit [Storage σ] [ByteDevice κ] in
theorem freshPid_eq_ahead (s : Service σ κ) : s.freshPid = s.pidCounter.ahead s.stride :=
  (Pid.ahead_stepsTo _ _).symm

/-- The counter moves by one step at each try. -/
theorem counter_undergo (balanced : s.tables.Balanced) (happening : Happening σ κ) :
    (s.undergo happening).pidCounter = s.pidCounter.ahead (s.tries happening) := by
  have behind : s.freshPid.next = s.pidCounter.ahead (s.stride + 1) := by
    rw [freshPid_eq_ahead, Pid.ahead_next]
  cases happening with
  | storage store => exact (Pid.ahead_zero _).symm
  | console console => exact (Pid.ahead_zero _).symm
  | memory allotment => exact (Pid.ahead_zero _).symm
  | request request =>
      rw [undergo]
      cases request with
      | spawn =>
          have outcome := creating (s.withCounter s.freshPid.next) s.freshPid
          have sparing : Sparing True _ _ _ := outcome.sparing
          rw [next_eq, perform, stateOf_map, run_spawn, stateOf_map]
          exact sparing.counter.trans behind
      | fork parent =>
          rw [next_eq, perform, stateOf_map, run_fork, tries]
          by_cases known : parent ∈ s.tables.processes
          · have sparing : Sparing True _ _ _ := (forking_fresh balanced parent).sparing
            rw [if_pos (OrderedMap.contains_iff.mpr known), if_pos known, stateOf_map]
            exact sparing.counter.trans behind
          · rw [if_neg (mt OrderedMap.contains_iff.mp known), if_neg known]
            rfl
      | _ => exact (perform_sparing balanced id).counter.trans (Pid.ahead_zero _).symm

omit [Storage σ] [ByteDevice κ] in
theorem eq_freshPid_of_spawn (ran : spawn.run s = .ok pid after) : pid = s.freshPid := by
  rw [run_spawn] at ran
  obtain ⟨_, _, _, rest⟩ := ok_of_bind ran
  cases rest
  rfl

omit [Storage σ] [ByteDevice κ] in
theorem eq_freshPid_of_fork {parent : Pid} (ran : (fork parent).run s = .ok pid after) :
    parent ∈ s.tables.processes ∧ pid = s.freshPid := by
  rw [run_fork] at ran
  split at ran
  · rename_i known
    obtain ⟨_, _, _, rest⟩ := ok_of_bind ran
    cases rest
    exact ⟨OrderedMap.contains_iff.mp known, rfl⟩
  · cases ran

omit [Storage σ] [ByteDevice κ] in
/-- What is answered is the identifier of the last try. -/
theorem allotted?_eq_some {happening : Happening σ κ}
    (answered : s.allotted? happening = some pid) :
    ∃ earlier, s.tries happening = earlier + 1 ∧ pid = s.pidCounter.ahead earlier := by
  cases happening with
  | storage store => cases answered
  | console console => cases answered
  | memory allotment => cases answered
  | request request =>
      cases request with
      | spawn =>
          rw [allotted?] at answered
          split at answered
          · rename_i ran
            cases answered
            exact ⟨s.stride, rfl, (eq_freshPid_of_spawn ran).trans (freshPid_eq_ahead s)⟩
          · cases answered
      | fork parent =>
          rw [allotted?] at answered
          split at answered
          · rename_i ran
            cases answered
            obtain ⟨known, fresh⟩ := eq_freshPid_of_fork ran
            exact ⟨s.stride, if_pos known, fresh.trans (freshPid_eq_ahead s)⟩
          · cases answered
      | _ => cases answered

/-- Whatever is answered in a run was tried in it. -/
theorem exists_try_of_mem (balanced : s.tables.Balanced) {run : List (Happening σ κ)}
    (member : pid ∈ s.allottedAlong run) :
    ∃ earlier < s.triesAlong run, pid = s.pidCounter.ahead earlier := by
  induction run generalizing s with
  | nil => cases member
  | cons happening rest ih =>
      rcases List.mem_append.mp member with now | later
      · obtain ⟨earlier, tried, rfl⟩ :=
          allotted?_eq_some (Option.mem_toList.mp now)
        refine ⟨earlier, ?_, rfl⟩
        rw [triesAlong, tried]
        omega
      · obtain ⟨earlier, tried, rfl⟩ := ih (balanced_undergo balanced happening) later
        refine ⟨s.tries happening + earlier, ?_, ?_⟩
        · rw [triesAlong]
          omega
        · rw [counter_undergo balanced, Pid.ahead_ahead]

/-- With fewer tries than words, no identifier is answered twice. -/
theorem nodup_allottedAlong (balanced : s.tables.Balanced) {run : List (Happening σ κ)}
    (few : s.triesAlong run < wordLimit) : (s.allottedAlong run).Nodup := by
  induction run generalizing s with
  | nil => exact .nil
  | cons happening rest ih =>
      rw [triesAlong] at few
      have later := ih (balanced_undergo balanced happening) (by omega)
      rw [allottedAlong]
      cases answered : s.allotted? happening with
      | none => exact later
      | some pid =>
          refine List.nodup_cons.mpr ⟨?_, later⟩
          intro again
          obtain ⟨earlier, tried, place⟩ := allotted?_eq_some answered
          obtain ⟨more, within, place'⟩ :=
            exists_try_of_mem (balanced_undergo balanced happening) again
          rw [counter_undergo balanced, Pid.ahead_ahead, tried, place] at place'
          have same := (Pid.ahead_inj (by omega) (by omega)).mp place'
          omega

end Runs

end Service

end OpenFiles
