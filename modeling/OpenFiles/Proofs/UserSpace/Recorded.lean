import OpenFiles.Proofs.Service.Runs
import OpenFiles.UserSpace.Access

/-!
# What user memory is asked for

A `Recorded` address space passes every request on and remembers it. Whatever the kernel does
with user memory is therefore in the record: a copy that nobody asked permission for would
be there as well.

An `Access` is one use of a range: what the check of the range came to, and what is copied if it
is granted. `Makes` says that the accesses of an action are exactly what the action adds to the
record, and that the action is refused when one of them is. A range that is refused without a
question leaves nothing in the record, so the accesses of every operation are computed from its
arguments and the memory, and not read off the record.
-/

namespace OpenFiles

/-- A request to an address space, a question together with its answer. -/
inductive Contact where
  | asked (start stop : Nat) (direction : Direction) (permitted : Bool)
  | fetched (start length : Nat)
  | stored (start : Nat) (data : Bytes)
  deriving DecidableEq

def Contact.isCopy : Contact → Bool
  | .asked _ _ _ _ => false
  | .fetched _ _ => true
  | .stored _ _ => true

/-- An address space and the requests that it got, oldest first. -/
structure Recorded (μ : Type) where
  space : μ
  record : List Contact

namespace Recorded

variable {μ α : Type}

/-- Passes a request on and adds it to the record. -/
def passOn (recorded : Recorded μ) (answered : α × μ) (contact : Contact) : α × Recorded μ :=
  (answered.1, ⟨answered.2, recorded.record ++ [contact]⟩)

instance [AddressSpace μ] : AddressSpace (Recorded μ) where
  permits start stop direction recorded :=
    let answered := AddressSpace.permits start stop direction recorded.space
    recorded.passOn answered (.asked start stop direction answered.1)
  fetch start length recorded :=
    recorded.passOn (AddressSpace.fetch start length recorded.space) (.fetched start length)
  store start data recorded :=
    recorded.passOn (AddressSpace.store start data recorded.space) (.stored start data)

end Recorded

/-- What the check of a range comes to. A range that starts at address 0 or wraps around is
refused without a question. -/
inductive Verdict where
  | unasked
  | denied
  | granted
  deriving DecidableEq

/-- What is copied once a range is granted. -/
inductive Copy where
  | nothing
  | fetch
  | store (data : Bytes)
  deriving DecidableEq

/-- One use of a range of user addresses. -/
structure Access where
  start : Nat
  length : Nat
  direction : Direction
  verdict : Verdict
  copy : Copy
  deriving DecidableEq

namespace Access

def copies (access : Access) : List Contact :=
  match access.copy with
  | .nothing => []
  | .fetch => [.fetched access.start access.length]
  | .store data => [.stored access.start data]

def contacts (access : Access) : List Contact :=
  let question := Contact.asked access.start (access.start + access.length) access.direction
  match access.verdict with
  | .unasked => []
  | .denied => [question false]
  | .granted => question true :: access.copies

/-- A range that is not granted is at most asked about. -/
theorem isCopy_of_not_granted {access : Access} {contact : Contact}
    (notGranted : access.verdict ≠ .granted) (member : contact ∈ access.contacts) :
    contact.isCopy = false := by
  unfold contacts at member
  split at member
  · cases member
  · rw [List.mem_singleton.mp member]
    rfl
  · rename_i granted
    exact absurd granted notGranted

/-- An access is to some bytes, a range is refused without a question just when it starts at
address 0 or wraps around, and a copy is in the direction of the question and in its range. -/
structure Proper (access : Access) : Prop where
  nonempty : access.length ≠ 0
  unasked : access.verdict = .unasked ↔
    wordLimit ≤ access.start + access.length ∨ access.start = 0
  fetch : access.copy = .fetch → access.direction = .fetch
  store : ∀ data, access.copy = .store data →
    access.direction = .store ∧ data ≠ [] ∧ data.length ≤ access.length

end Access

/-- A request may follow another one, or come first. A copy has to follow a question about a
range that it is in, in its own direction, that was answered with yes. It is not empty, does not
start at address 0 and does not wrap around. -/
def MayFollow (last : Option Contact) : Contact → Prop
  | .asked _ _ _ _ => True
  | .fetched start length =>
    start ≠ 0 ∧ length ≠ 0 ∧ start + length < wordLimit ∧
      last = some (.asked start (start + length) .fetch true)
  | .stored start data =>
    start ≠ 0 ∧ data ≠ [] ∧ ∃ stop, start + data.length ≤ stop ∧ stop < wordLimit ∧
      last = some (.asked start stop .store true)

/-- Every request in a record may follow the one before it. -/
def Covered (record : List Contact) : Prop :=
  ∀ before contact after, record = before ++ contact :: after → MayFollow before.getLast? contact

theorem MayFollow.or {last : Option Contact} {contact : Contact} (follows : MayFollow last contact)
    (earlier : Option Contact) : MayFollow (last.or earlier) contact := by
  cases contact with
  | asked start stop direction permitted => trivial
  | fetched start length =>
      obtain ⟨nonzero, positive, inside, rfl⟩ := follows
      exact ⟨nonzero, positive, inside, rfl⟩
  | stored start data =>
      obtain ⟨nonzero, positive, stop, within, inside, rfl⟩ := follows
      exact ⟨nonzero, positive, stop, within, inside, rfl⟩

theorem covered_nil : Covered [] := by
  intro before contact after whole
  cases before <;> cases whole

/-- What may come first may come after anything, so covered records can be put together. -/
theorem Covered.append {first second : List Contact} (covered : Covered first)
    (covered' : Covered second) : Covered (first ++ second) := by
  intro before contact after whole
  rcases List.append_eq_append_iff.mp whole with ⟨middle, rfl, rest⟩ | ⟨middle, rfl, rest⟩
  · rw [List.getLast?_append]
    exact (covered' middle contact after rest).or _
  · cases middle with
    | nil =>
        have follows : MayFollow none contact := covered' [] contact after rest.symm
        exact follows.or _
    | cons head tail =>
        obtain ⟨rfl, _⟩ := List.cons.inj rest
        exact covered before contact tail rfl

/-- A question, and the copy that it is asked for, may follow anything. -/
theorem covered_question {start stop : Nat} {direction : Direction} {permitted : Bool}
    {copies : List Contact} (few : copies.length ≤ 1) (follows : ∀ copy ∈ copies,
      MayFollow (some (.asked start stop direction permitted)) copy) :
    Covered (.asked start stop direction permitted :: copies) := by
  intro before contact after whole
  rw [List.cons_eq_append_iff] at whole
  rcases whole with ⟨rfl, same⟩ | ⟨rest, rfl, rfl⟩
  · cases same
    trivial
  · have empty : rest = [] := by
      rw [List.length_append, List.length_cons] at few
      exact List.length_eq_zero_iff.mp (by omega)
    subst empty
    exact follows contact List.mem_cons_self

/-- The requests of a proper access are covered. -/
theorem Access.Proper.covered {access : Access} (proper : access.Proper) :
    Covered access.contacts := by
  cases verdict : access.verdict with
  | unasked =>
      rw [contacts, verdict]
      exact covered_nil
  | denied =>
      rw [contacts, verdict]
      exact covered_question (Nat.zero_le _) fun copy member => absurd member List.not_mem_nil
  | granted =>
      have asked : ¬ (wordLimit ≤ access.start + access.length ∨ access.start = 0) := by
        rw [← proper.unasked, verdict]
        exact Verdict.noConfusion
      obtain ⟨inside, nonzero⟩ := not_or.mp asked
      have inside : access.start + access.length < wordLimit := Nat.lt_of_not_le inside
      rw [contacts, verdict]
      apply covered_question
      · unfold copies
        split <;> simp
      · intro copy member
        unfold copies at member
        split at member
        · cases member
        · rename_i fetch
          rw [List.mem_singleton.mp member, proper.fetch fetch]
          exact ⟨nonzero, proper.nonempty, inside, rfl⟩
        · rename_i data store
          obtain ⟨direction, positive, within⟩ := proper.store data store
          rw [List.mem_singleton.mp member, direction]
          exact ⟨nonzero, positive, _, Nat.add_le_add_left within _, inside, rfl⟩

theorem covered_flatMap {accesses : List Access} (proper : ∀ access ∈ accesses, access.Proper) :
    Covered (accesses.flatMap Access.contacts) := by
  induction accesses with
  | nil => exact covered_nil
  | cons access rest ih =>
      rw [List.flatMap_cons]
      exact (proper access List.mem_cons_self).covered.append
        (ih fun other member => proper other (List.mem_cons_of_mem access member))

section Makes

open OpenFiles.Action

variable {s μ α β : Type} {memoryOf : s → Recorded μ} {reason : Error}
variable {action : Action s α} {next : α → Action s β} {state : s} {accesses : List Access}

/-- The accesses are all that an action does with user memory, and the action is refused as soon
as the range of one of them is. -/
structure Makes (memoryOf : s → Recorded μ) (reason : Error) (action : Action s α) (state : s)
    (accesses : List Access) : Prop where
  record : (memoryOf (stateOf (action.run state))).record =
    (memoryOf state).record ++ accesses.flatMap Access.contacts
  proper : ∀ access ∈ accesses, access.Proper
  refused : ∀ access ∈ accesses, access.verdict ≠ .granted →
    ∃ after, action.run state = .error (.refused reason) after

/-- An action that leaves user memory alone. -/
theorem makes_nothing (same : memoryOf (stateOf (action.run state)) = memoryOf state) :
    Makes memoryOf reason action state [] where
  record := by rw [same, List.flatMap_nil, List.append_nil]
  proper access member := absurd member List.not_mem_nil
  refused access member := absurd member List.not_mem_nil

/-- Nothing more is made after a first action that stops. -/
theorem Makes.bind_error {stop : Stop} {after : s}
    (first : Makes memoryOf reason action state accesses)
    (stopped : action.run state = .error stop after) :
    Makes memoryOf reason (action >>= next) state accesses := by
  have run : (action >>= next).run state = .error stop after := by
    rw [EStateM.run_bind, stopped]
  obtain ⟨record, proper, refused⟩ := first
  rw [stopped] at record refused
  refine ⟨?_, proper, ?_⟩
  · rw [run]
    exact record
  · intro access member notGranted
    obtain ⟨after', same⟩ := refused access member notGranted
    cases same
    exact ⟨after, run⟩

/-- After a first action that gets through comes what the second one makes. -/
theorem Makes.bind_ok {value : α} {after : s} {more : List Access}
    (first : Makes memoryOf reason action state accesses)
    (went : action.run state = .ok value after)
    (second : Makes memoryOf reason (next value) after more) :
    Makes memoryOf reason (action >>= next) state (accesses ++ more) := by
  have run : (action >>= next).run state = (next value).run after := by
    rw [EStateM.run_bind, went]
  obtain ⟨record, proper, refused⟩ := first
  rw [went] at record refused
  have record : (memoryOf after).record = _ := record
  refine ⟨?_, ?_, ?_⟩
  · rw [run, second.record, record, List.flatMap_append, List.append_assoc]
  · intro access member
    rcases List.mem_append.mp member with member | member
    · exact proper access member
    · exact second.proper access member
  · intro access member notGranted
    rcases List.mem_append.mp member with member | member
    · obtain ⟨after', same⟩ := refused access member notGranted
      cases same
    · rw [run]
      exact second.refused access member notGranted

/-- The second action leaves user memory alone. -/
theorem Makes.bind_nothing (first : Makes memoryOf reason action state accesses)
    (second : ∀ value after, action.run state = .ok value after →
      memoryOf (stateOf ((next value).run after)) = memoryOf after) :
    Makes memoryOf reason (action >>= next) state accesses := by
  cases result : action.run state with
  | error stop after => exact first.bind_error result
  | ok value after =>
      have both := first.bind_ok result (makes_nothing (second value after result))
      rw [List.append_nil] at both
      exact both

/-- A refusal may be reported as another one. -/
theorem Makes.hidden {other : Error} {next : Except Error α → Action s β}
    (first : Makes memoryOf reason action state accesses)
    (reports : ∀ reason, next (.error reason) = refuse other)
    (leaves : ∀ value after, memoryOf (stateOf ((next (.ok value)).run after)) = memoryOf after) :
    Makes memoryOf other (attempt action >>= next) state accesses := by
  obtain ⟨record, proper, refused⟩ := first
  refine ⟨?_, proper, ?_⟩
  · rw [← record, EStateM.run_bind, Service.run_attempt]
    cases action.run state with
    | ok value after => exact congrArg Recorded.record (leaves value after)
    | error stop after =>
      cases stop with
      | refused reason =>
        dsimp only
        rw [reports]
        rfl
      | faulted fault => rfl
  · intro access member notGranted
    obtain ⟨after, stopped⟩ := refused access member notGranted
    rw [EStateM.run_bind, Service.run_attempt, stopped]
    dsimp only
    rw [reports]
    exact ⟨after, rfl⟩

end Makes

/-! ### The accesses of the checked operations -/

def verdict {μ : Type} [AddressSpace μ] (start length : Nat) (direction : Direction)
    (memory : μ) : Verdict :=
  if wordLimit ≤ start + length ∨ start = 0 then .unasked
  else if (AddressSpace.permits start (start + length) direction memory).1 then .granted
  else .denied

namespace UserSpace

open OpenFiles.Action

variable {μ α : Type} [AddressSpace μ] {memory : Recorded μ} {start length : Nat}
variable {direction : Direction} {copy : Copy}

def accessTo (start length : Nat) (direction : Direction) (copy : Copy) (memory : Recorded μ) :
    Access :=
  ⟨start, length, direction, verdict start length direction memory, copy⟩

def bufferAccesses (start length granted : Nat) (memory : Recorded μ) : List Access :=
  if length = 0 then []
  else [accessTo start length .fetch (if granted ≤ length then .nothing else .fetch) memory]

def roomAccesses (start length : Nat) (memory : Recorded μ) : List Access :=
  if length = 0 then [] else [accessTo start length .store .nothing memory]

def depositAccesses (start length : Nat) (data : Bytes) (memory : Recorded μ) : List Access :=
  if data.take length = [] then []
  else [accessTo start length .store (.store (data.take length)) memory]

/-- The accesses of loading text, one for each byte that is looked at. -/
def textAccesses : (room start : Nat) → Recorded μ → List Access
  | room, start, memory =>
    accessTo start 1 .fetch .fetch memory ::
      match (loadValue start 1).run memory with
      | .ok (byte :: _) after =>
        if byte = 0 then []
        else
          match room with
          | 0 => []
          | room + 1 => if wordLimit ≤ start + 1 then [] else textAccesses room (start + 1) after
      | _ => []

/-- The check of a range gets through when it is granted, and then the question is all that
has been recorded. -/
theorem run_requireRange_recorded (start length : Nat) (direction : Direction)
    (memory : Recorded μ) :
    ∃ after : Recorded μ,
      (requireRange start length direction).run memory =
        (if verdict start length direction memory = .granted then .ok () after
          else .error (.refused .badAddress) after) ∧
      after.record = memory.record ++
        (Access.contacts (accessTo start length direction .nothing memory)) := by
  by_cases unasked : wordLimit ≤ start + length ∨ start = 0
  · have refused : verdict start length direction memory = .unasked := if_pos unasked
    refine ⟨memory, ?_, ?_⟩
    · rw [requireRange, if_pos unasked, refused]
      rfl
    · simp only [Access.contacts, accessTo, refused, List.append_nil]
  · have asked : verdict start length direction memory =
        if (AddressSpace.permits start (start + length) direction memory.space).1 then .granted
        else .denied := if_neg unasked
    cases answer : (AddressSpace.permits start (start + length) direction memory.space).1 with
    | true =>
      have granted : verdict start length direction memory = .granted := by
        rw [asked, answer, if_pos rfl]
      refine ⟨(AddressSpace.permits start (start + length) direction memory).2, ?_, ?_⟩
      · have permitted : (AddressSpace.permits start (start + length) direction memory).1 = true :=
          answer
        rw [requireRange, if_neg unasked, if_pos granted, EStateM.run_bind, run_step]
        simp only [permitted, if_true]
        rfl
      · simp only [Access.contacts, accessTo, granted, Access.copies, AddressSpace.permits,
          Recorded.passOn, answer]
    | false =>
      have denied : verdict start length direction memory = .denied := by
        rw [asked, answer, if_neg Bool.false_ne_true]
      refine ⟨(AddressSpace.permits start (start + length) direction memory).2, ?_, ?_⟩
      · have refused : (AddressSpace.permits start (start + length) direction memory).1 = false :=
          answer
        rw [requireRange, if_neg unasked, denied, EStateM.run_bind, run_step]
        simp only [refused, Bool.false_eq_true, if_false]
        rfl
      · simp only [Access.contacts, accessTo, denied, AddressSpace.permits, Recorded.passOn, answer]

/-- The check of a range, and a copy after it. -/
theorem makes_checked {rest : Action (Recorded μ) α} (nonempty : length ≠ 0)
    (fetch : copy = .fetch → direction = .fetch)
    (store : ∀ data, copy = .store data → direction = .store ∧ data ≠ [] ∧ data.length ≤ length)
    (copies : ∀ after : Recorded μ, (stateOf (rest.run after)).record =
      after.record ++ (accessTo start length direction copy memory).copies) :
    Makes id .badAddress (requireRange start length direction >>= fun _ => rest) memory
      [accessTo start length direction copy memory] := by
  obtain ⟨after, run, record⟩ := run_requireRange_recorded start length direction memory
  have proper : (accessTo start length direction copy memory).Proper := by
    refine ⟨nonempty, ?_, fetch, store⟩
    simp only [accessTo, verdict]
    split
    · simp_all
    · split <;> simp_all
  have only (access : Access) (member : access ∈ [accessTo start length direction copy memory]) :
      access = accessTo start length direction copy memory := List.mem_singleton.mp member
  by_cases granted : verdict start length direction memory = .granted
  · rw [if_pos granted] at run
    refine ⟨?_, fun access member => only access member ▸ proper, ?_⟩
    · rw [EStateM.run_bind, run]
      simp only [Access.contacts, accessTo, granted, Access.copies] at record
      simp only [id, copies, record, List.flatMap_singleton, Access.contacts]
      simp only [accessTo, granted, List.append_assoc, List.singleton_append]
    · intro access member notGranted
      rw [only access member] at notGranted
      exact absurd granted notGranted
  · rw [if_neg granted] at run
    have stopped : (requireRange start length direction >>= fun _ => rest).run memory =
        .error (.refused .badAddress) after := by
      rw [EStateM.run_bind, run]
    refine ⟨?_, fun access member => only access member ▸ proper, fun _ _ _ => ⟨after, stopped⟩⟩
    rw [stopped, List.flatMap_singleton]
    refine record.trans (congrArg (memory.record ++ ·) ?_)
    cases outcome : verdict start length direction memory with
    | granted => exact absurd outcome granted
    | denied => simp only [Access.contacts, accessTo, outcome]
    | unasked => simp only [Access.contacts, accessTo, outcome]

theorem record_fetchChecked (start length : Nat) (memory : Recorded μ) :
    (stateOf ((fetchChecked start length).run memory)).record =
      memory.record ++ [.fetched start length] := by
  rw [fetchChecked, EStateM.run_bind, run_step]
  cases answer : (AddressSpace.fetch start length memory).1 with
  | error reason => rfl
  | ok bytes => rfl

theorem makes_loadValue (memory : Recorded μ) (start : Nat) {size : Nat} (nonempty : size ≠ 0) :
    Makes id .badAddress (loadValue start size) memory
      [accessTo start size .fetch .fetch memory] :=
  makes_checked nonempty (fun _ => rfl) nofun (record_fetchChecked start size)

theorem makes_loadBuffer (memory : Recorded μ) (start length granted : Nat) :
    Makes id .badAddress (loadBuffer start length granted) memory
      (bufferAccesses start length granted memory) := by
  rw [loadBuffer, bufferAccesses]
  by_cases empty : length = 0
  · rw [if_pos empty, if_pos empty]
    exact makes_nothing rfl
  · rw [if_neg empty, if_neg empty]
    by_cases large : granted ≤ length
    · rw [if_pos large, if_pos large]
      refine makes_checked empty nofun nofun ?_
      exact fun after => (List.append_nil after.record).symm
    · rw [if_neg large, if_neg large]
      exact makes_checked empty (fun _ => rfl) nofun (record_fetchChecked start length)

theorem makes_requireBuffer (memory : Recorded μ) (start length : Nat) :
    Makes id .badAddress (requireBuffer start length) memory
      (roomAccesses start length memory) := by
  rw [requireBuffer, roomAccesses]
  by_cases empty : length = 0
  · rw [if_pos empty, if_pos empty]
    exact makes_nothing rfl
  · have last : (requireRange start length .store : Action (Recorded μ) Unit) =
        requireRange start length .store >>= fun _ => pure () := (bind_pure _).symm
    rw [if_neg empty, if_neg empty, last]
    refine makes_checked empty nofun nofun ?_
    exact fun after => (List.append_nil after.record).symm

theorem makes_storeBuffer (memory : Recorded μ) (start length : Nat) (data : Bytes) :
    Makes id .badAddress (storeBuffer start length data) memory
      (depositAccesses start length data memory) := by
  rw [storeBuffer, depositAccesses]
  by_cases empty : data.take length = []
  · rw [if_pos empty, if_pos empty]
    exact makes_nothing rfl
  · rw [if_neg empty, if_neg empty]
    have nonempty : length ≠ 0 := by
      rintro rfl
      exact empty List.take_zero
    refine makes_checked nonempty nofun ?_ ?_
    · rintro stored same
      cases same
      exact ⟨rfl, empty, List.length_take_le length data⟩
    · intro after
      rw [EStateM.run_bind, run_step]
      cases answer : (AddressSpace.store start (data.take length) after).1 with
      | error reason => rfl
      | ok _ => rfl

/-- One byte is looked at, and something more is done if it is not zero. -/
theorem makes_byte {rest : UInt8 → Action (Recorded μ) Bytes}
    {more : UInt8 → Recorded μ → List Access} (start : Nat) (memory : Recorded μ)
    (continues : ∀ byte after, Makes id .badAddress (rest byte) after (more byte after)) :
    Makes id .badAddress
      (loadValue start 1 >>= fun bytes =>
        match bytes with
        | [] => pure []
        | byte :: _ => if byte = 0 then pure [] else rest byte) memory
      (accessTo start 1 .fetch .fetch memory ::
        match (loadValue start 1).run memory with
        | .ok (byte :: _) after => if byte = 0 then [] else more byte after
        | _ => []) := by
  have first := makes_loadValue memory start Nat.one_ne_zero
  cases result : (loadValue start 1).run memory with
  | error stop after => exact first.bind_error result
  | ok bytes after =>
      refine first.bind_ok result ?_
      cases bytes with
      | nil => exact makes_nothing rfl
      | cons byte others =>
          dsimp only
          by_cases zero : byte = 0
          · rw [if_pos zero, if_pos zero]
            exact makes_nothing rfl
          · rw [if_neg zero, if_neg zero]
            exact continues byte after

/-- Bytes are loaded one by one, each with an access of its own. -/
theorem makes_loadUntilZero (room start : Nat) (memory : Recorded μ) :
    Makes id .badAddress (loadUntilZero room start) memory (textAccesses room start memory) := by
  induction room generalizing start memory with
  | zero =>
    rw [loadUntilZero, textAccesses]
    exact makes_byte start memory fun _ _ => makes_nothing rfl
  | succ room ih =>
    rw [loadUntilZero, textAccesses]
    refine makes_byte start memory fun byte after => ?_
    dsimp only
    by_cases wrapped : wordLimit ≤ start + 1
    · rw [if_pos wrapped, if_pos wrapped]
      exact makes_nothing rfl
    · rw [if_neg wrapped, if_neg wrapped]
      exact (ih (start + 1) after).bind_nothing fun _ _ _ => rfl

theorem makes_loadText (room start : Nat) (memory : Recorded μ) :
    Makes id .badAddress (loadText room start) memory (textAccesses room start memory) := by
  refine (makes_loadUntilZero room start memory).bind_nothing ?_
  intro bytes after _
  cases decodeText? bytes with
  | none => rfl
  | some text => rfl

end UserSpace

end OpenFiles
