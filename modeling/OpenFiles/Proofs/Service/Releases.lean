import OpenFiles.Console.MemoryConsole
import OpenFiles.Proofs.Service.Refusals

/-!
# Every inode number is released exactly once

The main result is `released_exactly_once`. In one step, an inode number is released
when its last descriptor goes, or when an open that the storage granted is refused
by the tables while no descriptor is on that number, and at no other time. Over a
history in which some descriptor always refers to the number, it is never released.
-/

namespace OpenFiles

namespace Service

open OpenFiles.Action FileTree

variable {κ : Type} [ByteDevice κ] {s : Service FileTree κ} {inode : Inode} {request : Request}

/-- The number of descriptors, over all processes, that refer to an inode number. -/
def descriptorsOn (s : Service FileTree κ) (inode : Inode) : Nat :=
  s.tables.references.countP fun ref => s.tables.inode? ref.2 = some inode

omit [ByteDevice κ] in
theorem descriptorsOn_pos_iff : 0 < s.descriptorsOn inode ↔ s.Refers inode := by
  rw [descriptorsOn, List.countP_pos_iff]
  simp only [decide_eq_true_eq]
  exact Iff.rfl

/-- The inode number that the storage opened for a request that was then refused. -/
def refusedOpen (s : Service FileTree κ) (request : Request) : Option Inode :=
  match ((perform request).outcome s).1 with
  | .error (.refused _) => (s.storageOpens request).map Object.inode
  | _ => none

/-- An open that the storage grants is refused, or leaves a descriptor behind. -/
theorem refused_or_refers (balanced : s.tables.Balanced) {object : Object}
    (opens : s.storageOpens request = some object) :
    (∃ reason, ((perform request).outcome s).1 = .error (.refused reason)) ∨
      (s.next request).Refers object.inode := by
  cases request with
  | openPath pid path flags permission =>
      have run : (perform (.openPath pid path flags permission)).run s =
          (openPath pid path flags permission >>= fun fd => pure (.descriptor fd)).run s := rfl
      have outcome : Opening s pid path flags permission _ := opening balanced
      rw [next_eq, outcome_eq, run, EStateM.run_bind]
      generalize (openPath pid path flags permission).run s = result at outcome
      cases outcome with
      | @opened rights table object' store fd id after journal asked found answer room free
          granted entering =>
          simp only [storageOpens, asked, found, answer, Option.some.injEq] at opens
          subst opens
          obtain ⟨held, same, _, holds⟩ := holds_opened found free entering
          exact .inr (refers_iff_holds.mpr ⟨held, (holds held).mpr (.inl rfl), same⟩)
      | _ => exact .inl ⟨_, rfl⟩
  | _ => cases opens

theorem refusedOpen_eq_some :
    s.refusedOpen request = some inode ↔
      (∃ reason, ((perform request).outcome s).1 = .error (.refused reason)) ∧
        (s.storageOpens request).map Object.inode = some inode := by
  rw [refusedOpen]
  cases ((perform request).outcome s).1 with
  | ok reply => simp
  | error stop => cases stop <;> simp

/-- The two ways for a number that might have been referred to not to be so after a
request: the last descriptor went, or an open was refused. -/
theorem unreferred_iff (balanced : s.tables.Balanced) (request : Request) (inode : Inode) :
    (s.Refers inode ∨ (s.storageOpens request).map Object.inode = some inode) ∧
        ¬ (s.next request).Refers inode ↔
      (s.Refers inode ∧ ¬ (s.next request).Refers inode) ∨
        (s.refusedOpen request = some inode ∧ ¬ s.Refers inode) := by
  rw [refusedOpen_eq_some]
  constructor
  · rintro ⟨before | opens, gone⟩
    · exact .inl ⟨before, gone⟩
    · by_cases before : s.Refers inode
      · exact .inl ⟨before, gone⟩
      · obtain ⟨object, opened, rfl⟩ := Option.map_eq_some_iff.mp opens
        rcases refused_or_refers balanced opened with refused | refers
        · exact .inr ⟨⟨refused, opens⟩, before⟩
        · exact absurd refers gone
  · rintro (⟨before, gone⟩ | ⟨⟨⟨reason, refused⟩, opens⟩, unreferred⟩)
    · exact ⟨.inl before, gone⟩
    · refine ⟨.inr opens, ?_⟩
      rwa [Refers, (refused_next balanced refused).1]

/-- The releases of an inode number in one step. -/
theorem closes_next (reached : Reachable Administered s)
    (apart : (s.next request).storage.Identifies) (inode : Inode) :
    (s.next request).storage.closes inode = s.storage.closes inode +
      if (0 < s.descriptorsOn inode ∧ (s.next request).descriptorsOn inode = 0) ∨
        (s.refusedOpen request = some inode ∧ s.descriptorsOn inode = 0) then 1 else 0 := by
  have effect := effect_next reached.balanced request
  have moment := unreferred_iff reached.balanced request inode
  rw [effect.closes reached.anchored apart]
  simp only [← descriptorsOn_pos_iff, Nat.pos_iff_ne_zero, ne_eq, not_not] at moment ⊢
  simp only [moment]

/-- A number that is referred to all along is not released. -/
theorem closes_after (reached : Reachable Administered s) {history : List Request}
    (referred : ∀ initial, initial <+: history → 0 < (s.after initial).descriptorsOn inode)
    (apart : (s.after history).storage.Identifies) :
    (s.after history).storage.closes inode = s.storage.closes inode := by
  induction history generalizing s with
  | nil => rfl
  | cons request rest ih =>
      have now := referred [] List.nil_prefix
      have next := referred [request] ⟨rest, rfl⟩
      have stillReferred : ∀ initial, initial <+: rest → _ := fun initial isPrefix =>
        referred (request :: initial) (List.cons_prefix_cons.mpr ⟨rfl, isPrefix⟩)
      have later := ih (reached.next request) stillReferred apart
      have apartNext := ((reached.next request).extends_after rest).identifies apart
      refine later.trans ?_
      rw [closes_next reached apartNext, if_neg]
      · rfl
      · rintro (⟨_, gone⟩ | ⟨_, unreferred⟩)
        · exact Nat.ne_of_gt next gone
        · exact Nat.ne_of_gt now unreferred

/-- An inode number is released in a step exactly when its last descriptor goes, or
when an open that the storage granted is refused with no descriptor on the number.
While descriptors refer to it, no history releases it. -/
theorem released_exactly_once (reached : Reachable Administered s) (inode : Inode) :
    (∀ request, (s.next request).storage.Identifies →
      (s.next request).storage.closes inode = s.storage.closes inode +
        if (0 < s.descriptorsOn inode ∧ (s.next request).descriptorsOn inode = 0) ∨
          (s.refusedOpen request = some inode ∧ s.descriptorsOn inode = 0) then 1 else 0) ∧
    ∀ history, (∀ initial, initial <+: history → 0 < (s.after initial).descriptorsOn inode) →
      (s.after history).storage.Identifies →
      (s.after history).storage.closes inode = s.storage.closes inode :=
  ⟨fun _ apart => closes_next reached apart inode,
    fun _ referred apart => closes_after reached referred apart⟩

/-- The second of two descriptors on a device is closed, and the device is released. -/
theorem released_with_last_descriptor :
    ∃ start : Service FileTree MemoryConsole,
      build ⟨1, 5⟩ FileTree.initial (.ofCapacity 4) = .ok start ∧
      (start.after [.createProcess ⟨1⟩, .openPath ⟨1⟩ "/dev/null" (.ofBits 2) 0,
        .duplicate ⟨1⟩ ⟨3⟩ ⟨0⟩, .close ⟨1⟩ ⟨3⟩, .close ⟨1⟩ ⟨0⟩]).storage.closes ⟨3, by decide⟩ =
      (start.after [.createProcess ⟨1⟩, .openPath ⟨1⟩ "/dev/null" (.ofBits 2) 0,
        .duplicate ⟨1⟩ ⟨3⟩ ⟨0⟩, .close ⟨1⟩ ⟨3⟩]).storage.closes ⟨3, by decide⟩ + 1 := by
  have built : build ⟨1, 5⟩ FileTree.initial (MemoryConsole.ofCapacity 4) = .ok _ := rfl
  have reached : Reachable Administered _ := Reachable.built built
  refine ⟨_, built, ?_⟩
  have step := (released_exactly_once (reached.after [.createProcess ⟨1⟩,
    .openPath ⟨1⟩ "/dev/null" (.ofBits 2) 0, .duplicate ⟨1⟩ ⟨3⟩ ⟨0⟩, .close ⟨1⟩ ⟨3⟩])
    ⟨3, by decide⟩).1 (.close ⟨1⟩ ⟨0⟩) (identifies_of_nodup (by decide))
  rw [if_pos (.inl (by decide))] at step
  exact step

end Service

end OpenFiles
