import OpenFiles.OrderedMap.Basic

/-!
# Absolute paths

A `Path` is the list of names that lead from the root to a place in the tree.
The root is the empty list. Text becomes a path by being cut at its slashes and
walked name by name: an empty name and `.` stay where they are, `..` goes up,
and going up from the root stays at the root. Text that does not start with a
slash is walked from the working directory.

`Path.render` writes a path with one slash before every name. Names met while
walking are never empty, `.` or `..` and hold no slash; `IsName` says so, and
`walk_isName` that every walk keeps it.
-/

namespace OpenFiles

/-- An absolute path, as the names that lead to it from the root. -/
structure Path where
  names : List String
  deriving DecidableEq

instance : Ord Path := ⟨compareOn Path.names⟩

instance : Std.TransOrd Path :=
  inferInstanceAs (Std.TransCmp (compareOn Path.names))

instance : Std.LawfulEqOrd Path where
  eq_of_compare {a b} h := by
    cases a; cases b
    exact congrArg Path.mk (Std.LawfulEqOrd.eq_of_compare h)

namespace Path

def root : Path := ⟨[]⟩

/-- The directory that holds a path. The root holds itself. -/
def parent (path : Path) : Path := ⟨path.names.dropLast⟩

/-- Whether `path` leads through `above` to somewhere else. -/
def isBelow (path above : Path) : Bool :=
  above.names.isPrefixOf path.names && path ≠ above

/-- Cuts text at its slashes. There is one piece more than there are slashes. -/
def cut : List Char → List (List Char)
  | [] => [[]]
  | c :: rest =>
    if c = '/' then [] :: cut rest
    else
      match cut rest with
      | [] => [[c]]
      | piece :: pieces => (c :: piece) :: pieces

def step (path : Path) (name : String) : Path :=
  if name = "" ∨ name = "." then path
  else if name = ".." then path.parent
  else ⟨path.names ++ [name]⟩

/-- The place reached from `start` by the pieces of `text`. -/
def walk (start : Path) (text : String) : Path :=
  ((cut text.toList).map String.ofList).foldl step start

/-- Whether text names a place by itself, without a working directory. -/
def isAbsoluteText (text : String) : Bool := text.toList.head? = some '/'

/-- The place that `text` names for a given working directory. Empty text names
none. -/
def ofText? (directory : Path) (text : String) : Option Path :=
  if text = "" then none
  else if isAbsoluteText text then some (walk root text)
  else some (walk directory text)

/-- The text of a path: a slash before every name, or a lone slash. -/
def render (path : Path) : String :=
  match path.names with
  | [] => "/"
  | names => String.join (names.map fun name => "/" ++ name)

/-- The names that can occur in a path. -/
def IsName (name : String) : Prop :=
  name ≠ "" ∧ name ≠ "." ∧ name ≠ ".." ∧ '/' ∉ name.toList

@[simp] theorem parent_root : root.parent = root := rfl

theorem cut_ne_nil (text : List Char) : cut text ≠ [] := by
  cases text with
  | nil => simp [cut]
  | cons c rest =>
    simp only [cut]
    split
    · simp
    · split <;> simp

theorem slash_not_mem_of_mem_cut {text piece : List Char} (h : piece ∈ cut text) :
    '/' ∉ piece := by
  induction text generalizing piece with
  | nil => simp_all [cut]
  | cons c rest ih =>
    simp only [cut] at h
    split at h
    · rcases List.mem_cons.mp h with rfl | h
      · simp
      · exact ih h
    · rename_i notSlash
      split at h
      · simp only [List.mem_singleton] at h
        subst h
        simp [Ne.symm notSlash]
      · rename_i first others whole
        rcases List.mem_cons.mp h with rfl | h
        · have : '/' ∉ first := ih (by rw [whole]; exact List.mem_cons_self)
          simp [Ne.symm notSlash, this]
        · exact ih (by rw [whole]; exact List.mem_cons_of_mem _ h)

private theorem step_isName {path : Path} {name : String}
    (names : ∀ n ∈ path.names, IsName n) (noSlash : '/' ∉ name.toList) :
    ∀ n ∈ (path.step name).names, IsName n := by
  intro n member
  unfold step at member
  split at member
  · exact names n member
  · rename_i plain
    split at member
    · exact names n (List.dropLast_subset _ member)
    · rename_i notUp
      rcases List.mem_append.mp member with member | member
      · exact names n member
      · rw [List.mem_singleton] at member
        subst member
        exact ⟨fun h => plain (.inl h), fun h => plain (.inr h), notUp, noSlash⟩

/-- A walk from a path made of names ends at a path made of names. -/
theorem walk_isName {start : Path} {text : String} (names : ∀ n ∈ start.names, IsName n) :
    ∀ n ∈ (start.walk text).names, IsName n := by
  have pieces : ∀ piece ∈ (cut text.toList).map String.ofList, '/' ∉ piece.toList := by
    intro piece member
    obtain ⟨chars, inCut, rfl⟩ := List.mem_map.mp member
    rw [String.toList_ofList]
    exact slash_not_mem_of_mem_cut inCut
  unfold walk
  generalize (cut text.toList).map String.ofList = list at pieces
  induction list generalizing start with
  | nil => exact names
  | cons piece rest ih =>
    rw [List.foldl_cons]
    exact ih (step_isName names (pieces piece List.mem_cons_self))
      fun other member => pieces other (List.mem_cons_of_mem _ member)

end Path

end OpenFiles
