import OpenFiles.Proofs.Service.Contents

/-!
# When the contents of a removed file go

The tree drops the contents of a node without a path when releases have caught up with
opens. The tables release an object once for all opens that came to one row. So an open
that finds its inode number open already is counted and never matched: `excess_next` says
that the excess of opens over releases grows by such opens and by nothing else.

With it, `contents_freed_or_kept` says what becomes of a file that has lost its path and
its last descriptor. If no open found it open already, its contents are gone, whichever
went last; if one did, its contents stay for good.
-/

namespace OpenFiles

namespace Service

open OpenFiles.Action FileTree

variable {κ : Type} {s later : Service FileTree κ} {opened : Option Object} {inode : Inode}

/-- The opens of an inode number that no release has matched, beyond the one that its
descriptors are still to release. -/
def excess (s : Service FileTree κ) (inode : Inode) : Nat :=
  s.storage.openings inode - (s.storage.closes inode + if s.Refers inode then 1 else 0)

/-- An open is counted for the inode number of what it opened. -/
theorem Effect.openings (effect : Effect s opened later) (anchored : s.Anchored)
    (apart : later.storage.Identifies) (inode : Inode) :
    later.storage.openings inode =
      s.storage.openings inode + if opened.map Object.inode = some inode then 1 else 0 := by
  obtain ⟨id, stands⟩ := apart.exists_row inode
  have now := stands later.storage (.refl _)
  obtain ⟨store, gone, _, named, _, released, _⟩ := effect.nodes anchored
  have same : opened.map Object.inode = some inode ↔ opened.map Object.node = some id := by
    cases opened with
    | none => simp
    | some object =>
        have grown : Extends store later.storage := by
          rw [released]
          exact extends_releaseAll gone store
        simpa using now.objects object (grown.names (named object rfl))
  rw [now.openings, (stands s.storage effect.extends).openings, effect.opensAt]
  simp only [same]

/-- The opens of a number cover its releases and the one still to come. -/
theorem Accounted.covered {id : NodeId} (accounted : s.Accounted id) (anchored : s.Anchored)
    (stands : s.storage.StandsFor id inode) :
    s.storage.closes inode + (if s.Refers inode then 1 else 0) ≤ s.storage.openings inode := by
  rw [stands.closes, stands.openings]
  split
  · rename_i refers
    exact accounted.held ((anchored.refers_iff_holdsNode stands).mp refers)
  · exact accounted.matched

/-- A number that is referred to after a step was referred to before, or opened. -/
theorem Effect.refers_origin (effect : Effect s opened later) (refers : later.Refers inode) :
    s.Refers inode ∨ opened.map Object.inode = some inode := by
  obtain ⟨object, held, rfl⟩ := refers_iff_holds.mp refers
  rcases effect.objects object held with before | here
  · exact .inl (refers_iff_holds.mpr ⟨object, before, rfl⟩)
  · exact .inr (congrArg (Option.map Object.inode) here)

variable [ByteDevice κ] {request : Request}

/-- An open finds its inode number open already. -/
def Coalesces (s : Service FileTree κ) (inode : Inode) (request : Request) : Prop :=
  (s.storageOpens request).map Object.inode = some inode ∧ s.Refers inode

instance (s : Service FileTree κ) (inode : Inode) (request : Request) :
    Decidable (s.Coalesces inode request) :=
  inferInstanceAs (Decidable (_ ∧ _))

def coalescedOpens (s : Service FileTree κ) (inode : Inode) : List Request → Nat
  | [] => 0
  | request :: rest =>
    (if s.Coalesces inode request then 1 else 0) + (s.next request).coalescedOpens inode rest

/-- The excess of a number grows by the opens that find it open already. -/
theorem excess_next (sole : Sole s) (apart : (s.next request).storage.Identifies) (inode : Inode) :
    (s.next request).excess inode =
      s.excess inode + if s.Coalesces inode request then 1 else 0 := by
  have effect := sole.effect request
  have anchored := sole.reachable.anchored
  obtain ⟨id, stands⟩ := apart.exists_row inode
  have covered := (sole.accounted id).covered anchored (stands s.storage effect.extends)
  have openings := effect.openings anchored apart inode
  have closes := effect.closes anchored apart inode
  have origin : (s.next request).Refers inode → _ := effect.refers_origin
  have coalesces : s.Coalesces inode request ↔ _ ∧ _ := Iff.rfl
  rw [excess, excess, openings, closes]
  by_cases opens : (s.storageOpens request).map Object.inode = some inode <;>
    by_cases before : s.Refers inode <;> by_cases now : (s.next request).Refers inode <;>
      simp [opens, before, now, coalesces] at covered origin ⊢ <;> omega

theorem excess_after (sole : Sole s) {history : List Request}
    (apart : (s.after history).storage.Identifies) (inode : Inode) :
    (s.after history).excess inode = s.excess inode + s.coalescedOpens inode history := by
  induction history generalizing s with
  | nil => rfl
  | cons request rest ih =>
      have apartNext := ((sole.next request).reachable.extends_after rest).identifies apart
      rw [after_cons, ih (sole.next request) apart, excess_next sole apartNext, coalescedOpens]
      omega

/-- A file without a path and without a descriptor is empty, if no open of it is
unmatched. -/
theorem contentsOf_eq_nil (sole : Sole s) (apart : s.storage.Identifies)
    (unlinked : s.storage.Unlinked inode) (unreferred : ¬ s.Refers inode)
    (settled : s.excess inode = 0) : s.storage.contentsOf inode = [] := by
  obtain ⟨id, stands⟩ := apart.exists_row inode
  have now := stands s.storage (.refl _)
  rw [excess, if_neg unreferred, now.openings, now.closes, Nat.add_zero, Nat.sub_eq_zero_iff_le]
    at settled
  rw [now.contentsOf]
  exact sole.purged.dataAt ((now.unlinked_iff.mp unlinked).spentAt settled)

/-- A file without a path and without a descriptor, with an open that no release will
match. -/
structure Leaked (s : Service FileTree κ) (inode : Inode) : Prop where
  unlinked : s.storage.Unlinked inode
  unreferred : ¬ s.Refers inode
  unmatched : 0 < s.excess inode

theorem removedAt_next (balanced : s.tables.Balanced) {id : NodeId}
    (gone : s.storage.RemovedAt id) (request : Request) :
    (s.next request).storage.RemovedAt id :=
  kept_next balanced request gone (fun _ object gone => gone.release object)
    (fun _ _ _ _ _ opened => gone.openPath opened)
    (fun object position data _ => gone.writeAt object position data) gone.removePath

/-- What the storage opens for a request has a path. -/
theorem not_removedAt_of_storageOpens (sole : Sole s) {object : Object}
    (opens : s.storageOpens request = some object) : ¬ s.storage.RemovedAt object.node := by
  intro gone
  obtain ⟨store, _, asked, _⟩ := (sole.effect request).storage
  rw [opens] at asked
  cases asked with
  | opened answer =>
      have granted := openPath_of_openObject answer
      exact (gone.openPath granted).not_present (linked_openPath sole.linked granted).2.1

/-- No request makes a difference to a leaked file. -/
theorem Leaked.next (leaked : s.Leaked inode) (sole : Sole s) (request : Request)
    (apart : (s.next request).storage.Identifies) :
    (s.next request).Leaked inode ∧
      (s.next request).storage.contentsOf inode = s.storage.contentsOf inode := by
  have effect := sole.effect request
  have anchored := sole.reachable.anchored
  obtain ⟨id, stands⟩ := apart.exists_row inode
  have before := stands s.storage effect.extends
  have now := stands (s.next request).storage (.refl _)
  have gone := before.unlinked_iff.mp leaked.unlinked
  have unheld : ¬ s.HoldsNode id :=
    mt (anchored.refers_iff_holdsNode before).mpr leaked.unreferred
  have later : (s.next request).Leaked inode := by
    refine ⟨now.unlinked_iff.mpr (removedAt_next sole.balanced gone request), ?_, ?_⟩
    · rw [(sole.next request).reachable.anchored.refers_iff_holdsNode now]
      intro held
      rcases effect.origin held with same | opens
      · exact unheld same
      · obtain ⟨object, granted, rfl⟩ := Option.map_eq_some_iff.mp opens
        exact not_removedAt_of_storageOpens sole granted gone
    · rw [excess_next sole apart]
      exact Nat.lt_of_lt_of_le leaked.unmatched (Nat.le_add_right _ _)
  refine ⟨later, ?_⟩
  rw [now.contentsOf, before.contentsOf]
  by_contra changed
  cases rewrites_of_dataAt_ne sole.balanced changed with
  | written slot shown writable here positive answer =>
      exact unheld (here ▸ holdsNode_of_slot slot shown)
  | emptied emptied =>
      obtain ⟨path, _, leads⟩ := emptied.leads
      exact gone.not_present (sole.linked.present path id leads)
  | dropped spent =>
      have matched := spent.opensAt_le
      have unmatched := later.unmatched
      rw [excess, now.openings, now.closes] at unmatched
      omega

theorem Leaked.after (leaked : s.Leaked inode) (sole : Sole s) {history : List Request}
    (apart : (s.after history).storage.Identifies) :
    (s.after history).storage.contentsOf inode = s.storage.contentsOf inode := by
  induction history generalizing s with
  | nil => rfl
  | cons request rest ih =>
      have apartNext := ((sole.next request).reachable.extends_after rest).identifies apart
      obtain ⟨still, same⟩ := leaked.next sole request apartNext
      exact (ih still (sole.next request) apart).trans same

/-- The contents of a file that has lost its path and its last descriptor. They are gone
if no open found the file open already, and they stay as they are for good if one did. -/
theorem contents_freed_or_kept (sole : Sole s) (settled : s.excess inode = 0)
    {history : List Request} (apart : (s.after history).storage.Identifies)
    (unlinked : (s.after history).storage.Unlinked inode)
    (unreferred : ¬ (s.after history).Refers inode) :
    (s.coalescedOpens inode history = 0 → (s.after history).storage.contentsOf inode = []) ∧
    (0 < s.coalescedOpens inode history → ∀ more,
      (s.after (history ++ more)).storage.Identifies →
      (s.after (history ++ more)).storage.contentsOf inode =
        (s.after history).storage.contentsOf inode) := by
  have grown := excess_after sole apart inode
  rw [settled, Nat.zero_add] at grown
  constructor
  · intro none
    exact contentsOf_eq_nil (sole.after history) apart unlinked unreferred (grown.trans none)
  · intro some more later
    have leaked : (s.after history).Leaked inode := ⟨unlinked, unreferred, grown ▸ some⟩
    rw [after_append] at later ⊢
    exact leaked.after (sole.after history) later

/-- A file is opened, duplicated and removed, and both descriptors are closed. Its contents
are gone. -/
theorem contents_freed_with_last_duplicate :
    ∃ start : Service FileTree MemoryConsole,
      build ⟨2, 5⟩ ([.createFile "/a" [1, 2, 3]].foldl FileTree.after initial) (.ofCapacity 4) =
        .ok start ∧
      (start.after [.createProcess ⟨1⟩, .openPath ⟨1⟩ "/a" (.ofBits 2) 0,
        .duplicate ⟨1⟩ ⟨3⟩ ⟨4⟩, .close ⟨1⟩ ⟨3⟩, .remove "/a",
        .close ⟨1⟩ ⟨4⟩]).storage.contentsOf ⟨5, by decide⟩ = [] := by
  have built : build ⟨2, 5⟩ ([.createFile "/a" [1, 2, 3]].foldl FileTree.after initial)
    (MemoryConsole.ofCapacity 4) = .ok _ := rfl
  refine ⟨_, built, ?_⟩
  exact (contents_freed_or_kept (Sole.built _ built) (by decide) (identifies_of_nodup (by decide))
    ⟨_, rfl, rfl⟩ (by decide)).1 (by decide)

/-- A file is opened twice and removed, and both descriptors are closed. Its contents are
still there. -/
theorem contents_kept_after_second_open :
    ∃ s : Service FileTree MemoryConsole, Sole s ∧ s.storage.Identifies ∧
      s.storage.Unlinked ⟨5, by decide⟩ ∧ ¬ s.Refers ⟨5, by decide⟩ ∧
      s.storage.contentsOf ⟨5, by decide⟩ = [1, 2, 3] := by
  have built : build ⟨2, 5⟩ ([.createFile "/a" [1, 2, 3]].foldl FileTree.after initial)
    (MemoryConsole.ofCapacity 4) = .ok _ := rfl
  have sole := (Sole.built _ built).after [.createProcess ⟨1⟩, .openPath ⟨1⟩ "/a" (.ofBits 0) 0,
    .openPath ⟨1⟩ "/a" (.ofBits 0) 0, .remove "/a", .close ⟨1⟩ ⟨3⟩, .close ⟨1⟩ ⟨4⟩]
  exact ⟨_, sole, identifies_of_nodup (by decide), ⟨_, rfl, rfl⟩, by decide, rfl⟩

end Service

end OpenFiles
