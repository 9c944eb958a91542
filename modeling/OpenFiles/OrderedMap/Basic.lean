/-!
# Finite maps in key order

An `OrderedMap` lists its entries by strictly rising key. The list is therefore
determined by what the map says of each key, and two maps that agree on every
key are equal: `OrderedMap.ext_get?` in `OpenFiles.OrderedMap.Lemmas`. Every
traversal follows the order of the keys.

A map with values in `Unit` serves as an ordered set, written `OrderedSet`.
-/

namespace OpenFiles

/-- A finite map, listed by strictly rising key. -/
structure OrderedMap (κ : Type) [Ord κ] (α : Type) where
  entries : List (κ × α)
  rising : entries.Pairwise fun a b => compare a.1 b.1 = .lt

/-- A finite set, listed by strictly rising element. -/
abbrev OrderedSet (κ : Type) [Ord κ] : Type := OrderedMap κ Unit

namespace OrderedMap

variable {κ α : Type} [Ord κ]

instance [DecidableEq κ] [DecidableEq α] : DecidableEq (OrderedMap κ α) := fun m n =>
  decidable_of_iff (m.entries = n.entries)
    ⟨fun h => by cases m; cases n; simp only [mk.injEq]; exact h, fun h => h ▸ rfl⟩

def empty : OrderedMap κ α := ⟨[], .nil⟩

instance : EmptyCollection (OrderedMap κ α) := ⟨empty⟩

instance : Inhabited (OrderedMap κ α) := ⟨empty⟩

def keys (m : OrderedMap κ α) : List κ := m.entries.map Prod.fst

def size (m : OrderedMap κ α) : Nat := m.entries.length

def get? [DecidableEq κ] (m : OrderedMap κ α) (key : κ) : Option α :=
  (m.entries.find? fun entry => entry.1 = key).map Prod.snd

def contains [DecidableEq κ] (m : OrderedMap κ α) (key : κ) : Bool :=
  (m.get? key).isSome

instance [DecidableEq κ] : Membership κ (OrderedMap κ α) where
  mem m key := m.contains key = true

instance [DecidableEq κ] (key : κ) (m : OrderedMap κ α) : Decidable (key ∈ m) :=
  inferInstanceAs (Decidable (m.contains key = true))

/-- The list with `value` at `key`: in the place of an old entry for `key`, or
before the first greater key. -/
def placeEntry (key : κ) (value : α) : List (κ × α) → List (κ × α)
  | [] => [(key, value)]
  | entry :: rest =>
    match compare key entry.1 with
    | .lt => (key, value) :: entry :: rest
    | .eq => (key, value) :: rest
    | .gt => entry :: placeEntry key value rest

theorem mem_placeEntry {key : κ} {value : α} {list : List (κ × α)} {entry : κ × α}
    (h : entry ∈ placeEntry key value list) : entry = (key, value) ∨ entry ∈ list := by
  induction list with
  | nil => simpa [placeEntry] using h
  | cons head rest ih =>
    simp only [placeEntry] at h
    split at h
    · simpa using h
    · rcases List.mem_cons.mp h with h | h
      · exact .inl h
      · exact .inr (List.mem_cons_of_mem _ h)
    · rcases List.mem_cons.mp h with h | h
      · exact .inr (h ▸ List.mem_cons_self)
      · exact (ih h).imp_right (List.mem_cons_of_mem _)

theorem rising_placeEntry [Std.TransOrd κ] (key : κ) (value : α) {list : List (κ × α)}
    (rising : list.Pairwise fun a b => compare a.1 b.1 = .lt) :
    (placeEntry key value list).Pairwise fun a b => compare a.1 b.1 = .lt := by
  induction list with
  | nil => exact List.pairwise_singleton _ _
  | cons head rest ih =>
    obtain ⟨below, tail⟩ := List.pairwise_cons.mp rising
    simp only [placeEntry]
    split
    case h_1 before =>
      refine List.pairwise_cons.mpr ⟨fun entry member => ?_, rising⟩
      rcases List.mem_cons.mp member with rfl | member
      · exact before
      · exact Std.TransCmp.lt_trans before (below entry member)
    case h_2 same =>
      exact List.pairwise_cons.mpr
        ⟨fun entry member => Std.TransCmp.lt_of_eq_of_lt same (below entry member), tail⟩
    case h_3 after =>
      refine List.pairwise_cons.mpr ⟨fun entry member => ?_, ih tail⟩
      rcases mem_placeEntry member with rfl | member
      · exact Std.OrientedCmp.lt_of_gt after
      · exact below entry member

/-- The map with `value` at `key`, whatever was there. -/
def insert [Std.TransOrd κ] (m : OrderedMap κ α) (key : κ) (value : α) : OrderedMap κ α :=
  ⟨placeEntry key value m.entries, rising_placeEntry key value m.rising⟩

def erase [DecidableEq κ] (m : OrderedMap κ α) (key : κ) : OrderedMap κ α :=
  ⟨m.entries.filter fun entry => entry.1 ≠ key, m.rising.filter _⟩

end OrderedMap

namespace OrderedSet

variable {κ : Type} [Ord κ]

abbrev elements (s : OrderedSet κ) : List κ := OrderedMap.keys s

abbrev insert [Std.TransOrd κ] (s : OrderedSet κ) (key : κ) : OrderedSet κ :=
  OrderedMap.insert s key ()

abbrev singleton [Std.TransOrd κ] (key : κ) : OrderedSet κ :=
  insert (∅ : OrderedMap κ Unit) key

end OrderedSet

end OpenFiles
