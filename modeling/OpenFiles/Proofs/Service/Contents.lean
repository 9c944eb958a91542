import OpenFiles.Console.MemoryConsole
import OpenFiles.Proofs.FileTree.Numbers
import OpenFiles.Proofs.Service.Lineage
import OpenFiles.Proofs.Service.Sole

/-!
# What may change the contents of a file

The contents of a node differ after a request for one of three reasons: they were
written through a descriptor on the node, an open emptied the node, or the node is spent.
`rewrites_of_dataAt_ne` says so of rows. `contents_change_by_permission` says it of inode
numbers and of what a user of the service can see: a descriptor that writes comes from an
open that asked for writing, and a spent node has neither a path nor a descriptor.
-/

namespace OpenFiles

/-- A group may write, and appends, if the flags of its open ask for it. -/
theorem OpenFlags.asks_of_rights {flags : OpenFlags} {rights : Rights}
    (asked : Rights.ofOpenFlags flags = .ok rights) :
    flags.asksWrite = rights.write ∧ flags.append = rights.append := by
  rw [Rights.ofOpenFlags] at asked
  split at asked
  · rename_i mode direction
    cases asked
    exact ⟨asksWrite_of_openMode direction, rfl⟩
  · cases asked

namespace Service

open OpenFiles.Action FileTree

variable {κ : Type} [ByteDevice κ] {s : Service FileTree κ} {id : NodeId} {inode : Inode}
variable {request : Request}

/-- The ways in which a request makes the contents of a node differ. -/
inductive Rewrites (s : Service FileTree κ) (id : NodeId) : Request → Prop
  | written {pid : Pid} {fd : Descriptor} {data : Bytes} {group : GroupId} {file : OpenFile}
      (slot : s.tables.slot? ⟨pid, fd⟩ = some (.shared group))
      (shown : s.tables.file? group = some file) (writable : file.rights.write = true)
      (here : file.object.node = id) (positive : data ≠ [])
      (answer : ((perform (.write pid fd data)).outcome s).1 = .ok (.number data.length)) :
      Rewrites s id (.write pid fd data)
  | emptied {pid : Pid} {path : String} {flags : OpenFlags} {permission : UInt32}
      (emptied : Emptied s.storage path flags id) :
      Rewrites s id (.openPath pid path flags permission)
  | dropped {request : Request} (spent : (s.next request).storage.SpentAt id) :
      Rewrites s id request

theorem rewrites_of_dataAt_ne (balanced : s.tables.Balanced)
    (changed : (s.next request).storage.dataAt id ≠ s.storage.dataAt id) :
    Rewrites s id request := by
  have left := leaves_next balanced request
  generalize state : (s.next request).storage = store at left changed
  have dropped (spent : store.SpentAt id) : Rewrites s id request := by
    refine .dropped ?_
    rwa [state]
  cases left with
  | released gone => exact dropped ((dataAt_releaseAll gone s.storage id).resolve_left changed)
  | notOpened answer => exact absurd (by rw [eq_of_openObject answer]) changed
  | @opened pid path flags permission object middle answer gone =>
      rcases dataAt_openPath (openPath_of_openObject answer) id with kept | ⟨_, emptied, _⟩
      · rw [← kept] at changed
        exact dropped ((dataAt_releaseAll gone middle id).resolve_left changed)
      · exact .emptied emptied
  | @written pid fd data group file verdict _ slot shown writable positive answer told =>
      have outcome := stored s.storage file.object (file.start s.storage) data
      have answer : s.storage.writeAt file.object (file.start s.storage) data =
        (verdict, store) := answer
      rw [answer] at outcome
      cases outcome with
      | refused reason => exact absurd rfl changed
      | swallowed found device => exact absurd rfl changed
      | stored found regular inside =>
          by_cases here : file.object.node = id
          · exact .written slot shown writable here positive (told data.length rfl inside)
          · exact absurd (dataAt_adjust_of_ne here) changed
  | @removed path verdict _ answer =>
      have kept := dataAt_removePath s.storage path id
      have answer : s.storage.removePath path = (verdict, store) := answer
      rw [answer] at kept
      exact dropped (kept.resolve_left changed)

/-- What permits a request to make the contents of an inode number differ. -/
inductive Permits (s : Service FileTree κ) (inode : Inode) : Request → Prop
  /-- A write of some bytes, through a descriptor on the number whose group was founded by
  an open that asked for writing. -/
  | written {pid : Pid} {fd : Descriptor} {data : Bytes} {count : Nat} {group : GroupId}
      {file : OpenFile} {flags : OpenFlags}
      (answer : ((perform (.write pid fd data)).outcome s).1 = .ok (.number count))
      (positive : 0 < count) (slot : s.tables.slot? ⟨pid, fd⟩ = some (.shared group))
      (shown : s.tables.file? group = some file) (here : file.object.inode = inode)
      (opened : OpenedWith Administered group flags s) (asked : flags.asksWrite = true) :
      Permits s inode (.write pid fd data)
  /-- An open for writing that truncates, of a path that leads to the number's regular
  file. -/
  | emptied {pid : Pid} {path : String} {flags : OpenFlags} {permission : UInt32}
      {summary : NodeSummary} (truncates : flags.truncate = true) (asked : flags.asksWrite = true)
      (leads : s.storage.summary path = .ok summary) (here : summary.inode = inode)
      (regular : summary.kind = .regular) : Permits s inode (.openPath pid path flags permission)
  /-- The path is gone, and so is the last descriptor. -/
  | dropped {request : Request} (unlinked : (s.next request).storage.Unlinked inode)
      (unreferred : ¬ (s.next request).Refers inode) : Permits s inode request

omit [ByteDevice κ] in
/-- A descriptor that refers to a number is on the row that the number stands for. -/
theorem Anchored.refers_iff_holdsNode (anchored : s.Anchored)
    (stands : s.storage.StandsFor id inode) : s.Refers inode ↔ s.HoldsNode id := by
  rw [refers_iff_holds]
  constructor
  · rintro ⟨object, held, same⟩
    exact ⟨object, held, (stands.objects object (anchored object held)).mp same⟩
  · rintro ⟨object, held, same⟩
    exact ⟨object, held, (stands.objects object (anchored object held)).mpr same⟩

/-- What makes the contents of a row differ is permitted for the number it stands for. -/
theorem Rewrites.permits (rewrites : Rewrites s id request) (sole : Sole s)
    (before : s.storage.StandsFor id inode)
    (now : (s.next request).storage.StandsFor id inode) : Permits s inode request := by
  have anchored := sole.reachable.anchored
  cases rewrites with
  | @written pid fd data group file slot shown writable here positive answer =>
      have named := anchored file.object
        ⟨(⟨pid, fd⟩, group), Tables.mem_references_iff.mpr slot, file, shown, rfl⟩
      obtain ⟨flags, opened⟩ := exists_openedWith sole.reachable shown
      obtain ⟨file', shown', rights⟩ := opened.rights
      rw [shown, Option.some.injEq] at shown'
      subst shown'
      exact .written answer (List.length_pos_of_ne_nil positive) slot shown
        ((before.objects file.object named).mpr here) opened
        ((OpenFlags.asks_of_rights rights).1.trans writable)
  | @emptied pid path flags permission emptied =>
      obtain ⟨asked, ⟨place, named, leads⟩, regular⟩ := emptied
      obtain ⟨node, found, kind⟩ := Option.map_eq_some_iff.mp regular
      have number := (nodeOfInode?_eq_some (before.leads.trans found)).1
      rw [OpenFlags.empties, Bool.and_eq_true] at asked
      exact .emptied asked.1 asked.2 (summary_eq_ok named leads found) number kind
  | dropped spent =>
      refine .dropped (now.unlinked_iff.mpr spent.removedAt) ?_
      rw [(sole.next request).reachable.anchored.refers_iff_holdsNode now]
      exact fun held => (sole.next request).not_spentAt_of_holdsNode held spent

/-- The contents of an inode number differ after a request only with permission. And no
request but a write or an open makes them differ while a descriptor refers to the
number. -/
theorem contents_change_by_permission (sole : Sole s) (request : Request)
    (apart : (s.next request).storage.Identifies) (inode : Inode) :
    ((s.next request).storage.contentsOf inode ≠ s.storage.contentsOf inode →
      Permits s inode request) ∧
    ((∀ pid fd data, request ≠ .write pid fd data) →
      (∀ pid path flags permission, request ≠ .openPath pid path flags permission) →
      (s.next request).Refers inode →
      (s.next request).storage.contentsOf inode = s.storage.contentsOf inode) := by
  obtain ⟨id, stands⟩ := apart.exists_row inode
  have before := stands s.storage (sole.effect request).extends
  have now := stands (s.next request).storage (.refl _)
  have permits (changed : (s.next request).storage.contentsOf inode ≠
      s.storage.contentsOf inode) : Permits s inode request := by
    rw [now.contentsOf, before.contentsOf] at changed
    exact (rewrites_of_dataAt_ne sole.balanced changed).permits sole before now
  refine ⟨permits, fun noWrite noOpen refers => ?_⟩
  by_contra changed
  cases permits changed with
  | written => exact noWrite _ _ _ rfl
  | emptied => exact noOpen _ _ _ _ rfl
  | dropped unlinked unreferred => exact unreferred refers

/-- A file that two descriptors are on is removed, and one of them is closed; the other
still reads all of it. A write through it is permitted. -/
theorem contents_kept_for_second_descriptor :
    ∃ start : Service FileTree MemoryConsole,
      build ⟨2, 5⟩ ([.createFile "/a" [1, 2, 3]].foldl FileTree.after initial) (.ofCapacity 4) =
        .ok start ∧
      (start.after [.createProcess ⟨1⟩, .openPath ⟨1⟩ "/a" (.ofBits 2) 0,
        .duplicate ⟨1⟩ ⟨3⟩ ⟨4⟩, .remove "/a", .close ⟨1⟩ ⟨3⟩]).storage.contentsOf ⟨5, by decide⟩ =
      (start.after [.createProcess ⟨1⟩, .openPath ⟨1⟩ "/a" (.ofBits 2) 0,
        .duplicate ⟨1⟩ ⟨3⟩ ⟨4⟩, .remove "/a"]).storage.contentsOf ⟨5, by decide⟩ ∧
      Permits (start.after [.createProcess ⟨1⟩, .openPath ⟨1⟩ "/a" (.ofBits 2) 0])
        ⟨5, by decide⟩ (.write ⟨1⟩ ⟨3⟩ [7]) := by
  have built : build ⟨2, 5⟩ ([.createFile "/a" [1, 2, 3]].foldl FileTree.after initial)
    (MemoryConsole.ofCapacity 4) = .ok _ := rfl
  have sole := Sole.built _ built
  refine ⟨_, built, ?_, ?_⟩
  · exact (contents_change_by_permission (sole.after [.createProcess ⟨1⟩,
      .openPath ⟨1⟩ "/a" (.ofBits 2) 0, .duplicate ⟨1⟩ ⟨3⟩ ⟨4⟩, .remove "/a"])
      (.close ⟨1⟩ ⟨3⟩) (identifies_of_nodup (by decide)) ⟨5, by decide⟩).2
      (by simp) (by simp) (by decide)
  · exact (contents_change_by_permission (sole.after [.createProcess ⟨1⟩,
      .openPath ⟨1⟩ "/a" (.ofBits 2) 0]) (.write ⟨1⟩ ⟨3⟩ [7])
      (identifies_of_nodup (by decide)) ⟨5, by decide⟩).1 (by decide)

end Service

end OpenFiles
