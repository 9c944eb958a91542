import OpenFiles.OrderedMap.Basic

/-!
# What a finite map says of each key

One equation per operation, through `get?`, and the principle that these
equations determine the map. Together they let an operation and its inverse be
compared without looking at the list of entries: `erase_insert` is such a round
trip.
-/

namespace OpenFiles

namespace OrderedMap

variable {κ α : Type} [Ord κ] [DecidableEq κ]

@[simp] theorem get?_empty (key : κ) : (∅ : OrderedMap κ α).get? key = none := rfl

omit [DecidableEq κ] in
@[simp] theorem entries_empty : (∅ : OrderedMap κ α).entries = [] := rfl

theorem mem_iff {m : OrderedMap κ α} {key : κ} : key ∈ m ↔ ∃ value, m.get? key = some value := by
  change (m.get? key).isSome = true ↔ _
  exact Option.isSome_iff_exists

theorem not_mem_iff {m : OrderedMap κ α} {key : κ} : key ∉ m ↔ m.get? key = none := by
  rw [mem_iff]
  cases m.get? key <;> simp

theorem contains_iff {m : OrderedMap κ α} {key : κ} : m.contains key = true ↔ key ∈ m := Iff.rfl

private theorem find?_placeEntry [Std.TransOrd κ] [Std.LawfulEqOrd κ] (key other : κ) (value : α)
    (list : List (κ × α)) :
    (placeEntry key value list).find? (fun entry => entry.1 = other) =
      if key = other then some (key, value) else list.find? fun entry => entry.1 = other := by
  induction list with
  | nil =>
    by_cases same : key = other <;> simp [placeEntry, same]
  | cons head rest ih =>
    simp only [placeEntry]
    split
    · by_cases same : key = other <;> simp [List.find?_cons, same]
    · rename_i equal
      have equal := Std.LawfulEqOrd.eq_of_compare equal
      by_cases same : key = other <;> simp [same, ← equal]
    · rename_i after
      have apart : head.1 ≠ key := fun h => by
        rw [← h, Std.ReflOrd.compare_self] at after
        cases after
      by_cases same : key = other
      · subst same
        simp [apart, ih]
      · by_cases found : head.1 = other <;> simp [found, ih, same]

theorem get?_insert [Std.TransOrd κ] [Std.LawfulEqOrd κ] (m : OrderedMap κ α) (key other : κ)
    (value : α) :
    (m.insert key value).get? other = if key = other then some value else m.get? other := by
  unfold get? insert
  rw [find?_placeEntry]
  split <;> rfl

@[simp] theorem get?_insert_self [Std.TransOrd κ] [Std.LawfulEqOrd κ] (m : OrderedMap κ α)
    (key : κ) (value : α) : (m.insert key value).get? key = some value := by
  rw [get?_insert, if_pos rfl]

theorem get?_insert_of_ne [Std.TransOrd κ] [Std.LawfulEqOrd κ] (m : OrderedMap κ α)
    {key other : κ} (apart : key ≠ other) (value : α) :
    (m.insert key value).get? other = m.get? other := by
  rw [get?_insert, if_neg apart]

theorem get?_erase (m : OrderedMap κ α) (key other : κ) :
    (m.erase key).get? other = if key = other then none else m.get? other := by
  unfold get? erase
  simp only [List.find?_filter]
  by_cases same : key = other
  · subst same
    rw [if_pos rfl, Option.map_eq_none_iff, List.find?_eq_none]
    intro entry _
    simp
  · rw [if_neg same]
    congr 2
    funext entry
    by_cases found : entry.1 = other
    · simp [found, Ne.symm same]
    · simp [found]

@[simp] theorem get?_erase_self (m : OrderedMap κ α) (key : κ) : (m.erase key).get? key = none := by
  rw [get?_erase, if_pos rfl]

theorem get?_erase_of_ne (m : OrderedMap κ α) {key other : κ} (apart : key ≠ other) :
    (m.erase key).get? other = m.get? other := by
  rw [get?_erase, if_neg apart]

theorem mem_insert [Std.TransOrd κ] [Std.LawfulEqOrd κ] {m : OrderedMap κ α} {key other : κ}
    {value : α} : other ∈ m.insert key value ↔ other = key ∨ other ∈ m := by
  rw [mem_iff, mem_iff, get?_insert]
  by_cases same : key = other
  · simp [same]
  · simp [same, Ne.symm same]

theorem mem_erase {m : OrderedMap κ α} {key other : κ} :
    other ∈ m.erase key ↔ other ≠ key ∧ other ∈ m := by
  rw [mem_iff, mem_iff, get?_erase]
  by_cases same : key = other
  · simp [same]
  · simp [same, Ne.symm same]

private theorem get?_eq_some_iff_mem [Std.TransOrd κ] {m : OrderedMap κ α} {key : κ} {value : α} :
    m.get? key = some value ↔ (key, value) ∈ m.entries := by
  obtain ⟨list, rising⟩ := m
  simp only [get?]
  induction list with
  | nil => simp
  | cons head rest ih =>
    obtain ⟨below, tail⟩ := List.pairwise_cons.mp rising
    rw [List.find?_cons]
    by_cases found : head.1 = key
    · subst found
      simp only [decide_true, Option.map_some, Option.some.injEq, List.mem_cons]
      constructor
      · rintro rfl
        exact .inl rfl
      · rintro (same | member)
        · exact same ▸ rfl
        · have := below _ member
          rw [Std.ReflOrd.compare_self] at this
          cases this
    · simp only [found, decide_false, ih tail, List.mem_cons]
      constructor
      · exact .inr
      · rintro (same | member)
        · exact absurd (same ▸ rfl) found
        · exact member

/-- An entry is listed exactly when looking up its key finds its value. -/
theorem mem_entries_iff [Std.TransOrd κ] {m : OrderedMap κ α} {entry : κ × α} :
    entry ∈ m.entries ↔ m.get? entry.1 = some entry.2 :=
  get?_eq_some_iff_mem.symm

theorem mem_keys_iff [Std.TransOrd κ] {m : OrderedMap κ α} {key : κ} :
    key ∈ m.keys ↔ key ∈ m := by
  simp only [keys, List.mem_map, mem_iff, mem_entries_iff, Prod.exists]
  constructor
  · rintro ⟨_, value, found, rfl⟩
    exact ⟨value, found⟩
  · rintro ⟨value, found⟩
    exact ⟨key, value, found, rfl⟩

omit [DecidableEq κ] in
theorem nodup_keys [Std.TransOrd κ] (m : OrderedMap κ α) : m.keys.Nodup := by
  rw [keys, List.Nodup, List.pairwise_map]
  refine m.rising.imp fun {a b} before same => ?_
  rw [same, Std.ReflOrd.compare_self] at before
  cases before

omit [DecidableEq κ] in
theorem nodup_entries [Std.TransOrd κ] (m : OrderedMap κ α) : m.entries.Nodup :=
  (List.pairwise_map.mp m.nodup_keys).imp fun apart same => apart (congrArg Prod.fst same)

/-- Maps that agree on every key are equal. -/
theorem ext_get? [Std.TransOrd κ] {m n : OrderedMap κ α}
    (agree : ∀ key, m.get? key = n.get? key) : m = n := by
  have perm : m.entries.Perm n.entries :=
    (List.perm_ext_iff_of_nodup m.nodup_entries n.nodup_entries).mpr fun entry => by
      rw [mem_entries_iff, mem_entries_iff, agree]
  have same : m.entries = n.entries :=
    perm.eq_of_pairwise (fun a b _ _ before after => by
      rw [Std.OrientedCmp.gt_of_lt after] at before
      cases before) m.rising n.rising
  cases m
  cases n
  simp only [mk.injEq]
  exact same

/-- Sets with the same elements are equal. -/
theorem ext_mem [Std.TransOrd κ] {s t : OrderedSet κ} (agree : ∀ key, key ∈ s ↔ key ∈ t) :
    s = t :=
  ext_get? fun key => by
    have := agree key
    simp only [mem_iff] at this
    cases hs : s.get? key <;> cases ht : t.get? key <;> simp_all

theorem erase_of_not_mem [Std.TransOrd κ] {m : OrderedMap κ α} {key : κ} (missing : key ∉ m) :
    m.erase key = m := by
  refine ext_get? fun other => ?_
  rw [get?_erase]
  by_cases same : key = other
  · rw [if_pos same, ← same, not_mem_iff.mp missing]
  · rw [if_neg same]

/-- Removing a fresh entry restores the map. -/
theorem erase_insert [Std.TransOrd κ] [Std.LawfulEqOrd κ] {m : OrderedMap κ α} {key : κ}
    (fresh : key ∉ m) (value : α) : (m.insert key value).erase key = m := by
  refine ext_get? fun other => ?_
  rw [get?_erase, get?_insert]
  by_cases same : key = other
  · subst same
    rw [if_pos rfl, not_mem_iff.mp fresh]
  · simp [same]

end OrderedMap

end OpenFiles
