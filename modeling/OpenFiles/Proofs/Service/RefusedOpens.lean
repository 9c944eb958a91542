import OpenFiles.Console.MemoryConsole
import OpenFiles.Proofs.Service.Sole

/-!
# What a refused open leaves behind in the tree

The tree creates and empties files before the tables find out whether they have room.
`sameFiles_iff_of_refused` says exactly which refused opens leave the files as they
were: those that the storage did not grant, and those that found a node and had nothing
to empty. `files_differ_after_refusal` has an open of each of the other two kinds.
-/

namespace OpenFiles

namespace FileTree

variable {fs middle later : FileTree} {id : NodeId} {object : Object} {path : Path} {text : String}
variable {permission : UInt32} {flags : OpenFlags}

/-- Paths lead to the same nodes, and every node has the same contents. -/
structure SameFiles (fs later : FileTree) : Prop where
  paths : ∀ path, later.tree.get? path = fs.tree.get? path
  contents : ∀ id, later.dataAt id = fs.dataAt id

theorem SameFiles.refl (fs : FileTree) : SameFiles fs fs := ⟨fun _ => rfl, fun _ => rfl⟩

theorem SameFiles.trans (first : SameFiles fs middle) (second : SameFiles middle later) :
    SameFiles fs later :=
  ⟨fun path => (second.paths path).trans (first.paths path),
    fun id => (second.contents id).trans (first.contents id)⟩

theorem SameFiles.symm (same : SameFiles fs later) : SameFiles later fs :=
  ⟨fun path => (same.paths path).symm, fun id => (same.contents id).symm⟩

/-- The release of an object whose path is there only counts. -/
theorem sameFiles_release (present : fs.Present object.node) :
    SameFiles fs (fs.release object) := by
  refine ⟨fun _ => rfl, ?_⟩
  intro id
  by_cases here : object.node = id
  · subst here
    rcases dataAt_release fs object object.node with same | spent
    · exact same
    · exact absurd ((spares_release object).present _ present) spent.removedAt.not_present
  · exact dataAt_adjust_of_ne here

/-- A granted open leaves the files as they were exactly if it found a node and had
nothing to empty. -/
theorem sameFiles_openPath_iff
    (opened : fs.openPath text flags permission = .ok (object, later)) :
    SameFiles fs later ↔ ∃ summary, fs.summary text = .ok summary ∧
      (flags.empties = true → summary.kind = .regular → summary.size = 0) := by
  obtain ⟨node, entry, _, rows⟩ := node?_openPath opened
  have now := rows object.node
  rw [if_pos rfl] at now
  have emptied := (dataAt_of_node? now).trans (node.data_afterOpenWith flags)
  generalize tree : later.tree = left at entry
  cases entry with
  | @found path node named leads there =>
      have before := dataAt_of_node? there
      rw [summary_eq_ok named leads there]
      constructor
      · intro same
        refine ⟨node.summary, rfl, fun empties regular => ?_⟩
        have kept := same.contents object.node
        rw [emptied, if_pos ⟨regular, empties⟩, before] at kept
        exact congrArg List.length kept.symm
      · rintro ⟨summary, known, nothing⟩
        cases known
        refine ⟨fun path => by rw [tree], fun id => ?_⟩
        by_cases here : object.node = id
        · subst here
          rw [emptied, before]
          split
          · rename_i both
            exact (List.eq_nil_of_length_eq_zero (nothing both.2 both.1)).symm
          · rfl
        · rw [dataAt, rows, if_neg here, dataAt]
  | @made path inode permission named vacant free =>
      rw [summary_eq_error named vacant]
      constructor
      · intro same
        have kept := same.paths path
        rw [tree, OrderedMap.get?_insert_self, vacant] at kept
        cases kept
      · rintro ⟨summary, known, _⟩
        cases known

end FileTree

namespace Service

open OpenFiles.Action FileTree

variable {κ : Type} [ByteDevice κ] {s : Service FileTree κ} {pid : Pid} {path : String}
variable {flags : OpenFlags} {permission : UInt32} {reason : Error}

/-- A refused open leaves the tree alone, or as the storage left it but for the release
of what it had opened. -/
theorem storage_of_refused (balanced : s.tables.Balanced)
    (refused : ((perform (.openPath pid path flags permission)).outcome s).1 =
      .error (.refused reason)) :
    s.storageOpens (.openPath pid path flags permission) = none ∧
        (s.next (.openPath pid path flags permission)).storage = s.storage ∨
      ∃ object store, s.storageOpens (.openPath pid path flags permission) = some object ∧
        s.storage.openPath path flags permission = .ok (object, store) ∧
        ((s.next (.openPath pid path flags permission)).storage = store ∨
          (s.next (.openPath pid path flags permission)).storage = store.release object) := by
  have run : (perform (.openPath pid path flags permission)).run s =
      (openPath pid path flags permission >>= fun fd => pure (.descriptor fd)).run s := rfl
  have outcome : Opening s pid path flags permission _ := opening balanced
  rw [outcome_eq, run, EStateM.run_bind] at refused
  rw [next_eq, run, EStateM.run_bind]
  generalize (openPath pid path flags permission).run s = result at outcome refused
  cases outcome with
  | direction none => exact .inl ⟨by simp only [storageOpens, none], rfl⟩
  | unknown asked missing => exact .inl ⟨by simp only [storageOpens, asked, missing], rfl⟩
  | storage asked found answer =>
      exact .inl ⟨by simp only [storageOpens, asked, found, answer], eq_of_openObject answer⟩
  | @systemFull rights table object store journal asked found answer full =>
      exact .inr ⟨object, store, by simp only [storageOpens, asked, found, answer],
        openPath_of_openObject answer, .inr rfl⟩
  | @unbound rights table object reason store left journal asked found answer room unbindable
      released =>
      refine .inr ⟨object, store, by simp only [storageOpens, asked, found, answer],
        openPath_of_openObject answer, ?_⟩
      change left = store ∨ left = store.release object
      rw [released]
      split
      · exact .inl rfl
      · exact .inr rfl
  | opened asked found answer room free granted entering => cases refused

/-- A refused open leaves the files as they were exactly if the storage did not grant
it, or if the path led to a node and there was nothing to empty. -/
theorem sameFiles_iff_of_refused (sole : Sole s)
    (refused : ((perform (.openPath pid path flags permission)).outcome s).1 =
      .error (.refused reason)) :
    SameFiles s.storage (s.next (.openPath pid path flags permission)).storage ↔
      s.storageOpens (.openPath pid path flags permission) = none ∨
        ∃ summary, s.storage.summary path = .ok summary ∧
          (flags.empties = true → summary.kind = .regular → summary.size = 0) := by
  rcases storage_of_refused sole.balanced refused with
    ⟨none, same⟩ | ⟨object, store, opens, opened, left⟩
  · rw [same]
    exact ⟨fun _ => .inl none, fun _ => .refl s.storage⟩
  · have present := (linked_openPath sole.linked opened).2.1
    have settled : SameFiles store (s.next (.openPath pid path flags permission)).storage := by
      rcases left with same | released
      · rw [same]
        exact .refl store
      · rw [released]
        exact sameFiles_release present
    have granted : s.storageOpens (.openPath pid path flags permission) ≠ none := by
      rw [opens]
      exact Option.some_ne_none object
    rw [or_iff_right granted, ← sameFiles_openPath_iff opened]
    exact ⟨fun same => same.trans settled.symm, fun same => same.trans settled⟩

/-- The only row is taken. An open of a file with contents that would empty nothing is
refused, and the files are as they were. -/
theorem sameFiles_of_refused_reader :
    ∃ start : Service FileTree MemoryConsole,
      build ⟨1, 5⟩ ([.createFile "/a" [1, 2, 3]].foldl FileTree.after initial) (.ofCapacity 4) =
        .ok start ∧
      SameFiles
        (start.after [.createProcess ⟨1⟩, .openPath ⟨1⟩ "/dev/null" (.ofBits 2) 0]).storage
        (start.after [.createProcess ⟨1⟩, .openPath ⟨1⟩ "/dev/null" (.ofBits 2) 0,
          .openPath ⟨1⟩ "/a" (.ofBits 0) 0]).storage := by
  have built : build ⟨1, 5⟩ ([.createFile "/a" [1, 2, 3]].foldl FileTree.after initial)
    (MemoryConsole.ofCapacity 4) = .ok _ := rfl
  have sole := (Sole.built _ built).after
    [.createProcess ⟨1⟩, .openPath ⟨1⟩ "/dev/null" (.ofBits 2) 0]
  refine ⟨_, built, ?_⟩
  have full := @sameFiles_iff_of_refused _ _ _ ⟨1⟩ "/a" (.ofBits 0) 0 .tooManyOpenInSystem sole rfl
  exact full.mpr (.inr ⟨_, rfl, by decide⟩)

/-- The only row is taken. One open is refused after it has emptied a file, and another
after it has made one. -/
theorem files_differ_after_refusal :
    ∃ s : Service FileTree MemoryConsole, Sole s ∧
      ((perform (.openPath ⟨1⟩ "/a" (.ofBits 17) 0)).outcome s).1 =
        .error (.refused .tooManyOpenInSystem) ∧
      s.storage.contents "/a" = .ok [1, 2, 3] ∧
      (s.next (.openPath ⟨1⟩ "/a" (.ofBits 17) 0)).storage.contents "/a" = .ok [] ∧
      ¬ SameFiles s.storage (s.next (.openPath ⟨1⟩ "/a" (.ofBits 17) 0)).storage ∧
      ((perform (.openPath ⟨1⟩ "/b" (.ofBits 6) 0)).outcome s).1 =
        .error (.refused .tooManyOpenInSystem) ∧
      s.storage.contents "/b" = .error .notFound ∧
      (s.next (.openPath ⟨1⟩ "/b" (.ofBits 6) 0)).storage.contents "/b" = .ok [] ∧
      ¬ SameFiles s.storage (s.next (.openPath ⟨1⟩ "/b" (.ofBits 6) 0)).storage := by
  have built : build ⟨1, 5⟩ ([.createFile "/a" [1, 2, 3]].foldl FileTree.after initial)
    (MemoryConsole.ofCapacity 4) = .ok _ := rfl
  have sole := (Sole.built _ built).after
    [.createProcess ⟨1⟩, .openPath ⟨1⟩ "/dev/null" (.ofBits 2) 0]
  refine ⟨_, sole, rfl, rfl, rfl, ?_, rfl, rfl, rfl, ?_⟩
  · intro same
    have emptied := same.contents ⟨4⟩
    revert emptied
    decide
  · intro same
    have made := same.paths ⟨["b"]⟩
    revert made
    decide

end Service

end OpenFiles
