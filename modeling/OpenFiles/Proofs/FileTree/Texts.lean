import OpenFiles.Path

/-!
# Paths read as text

Whoever keeps paths as text sees three things only: which text a path is written as,
which text stands before the last slash, and whether one text starts with another. For
paths made of names these say what the lists of names say. The text can be read back
(`walk_render`), so different paths have different texts; what stands before the last slash is
the directory above (`textAbove_render`); and a text followed by a slash starts exactly
the texts of the paths below it (`render_slash_prefix_iff`), which a longer name that
merely starts alike does not.
-/

namespace OpenFiles

namespace Path

variable {path path' above : Path} {names : List String} {text : String}

def Named (path : Path) : Prop := ∀ name ∈ path.names, IsName name

/-- Text of an absolute path in normal form: nothing empty, no `.` and no `..` stands between
its slashes, and it ends in a slash only if it is nothing else. -/
structure Normal (text : String) : Prop where
  absolute : isAbsoluteText text = true
  plain : text ≠ "/" → ∀ piece ∈ (cut text.toList).tail, IsName (String.ofList piece)
  unclosed : text ≠ "/" → text.toList.getLast? ≠ some '/'

/-- The text of the directory above: what stands before the last slash, or a lone slash if
that is nothing. -/
def textAbove (text : String) : String :=
  match ((text.toList.reverse.dropWhile (· ≠ '/')).drop 1).reverse with
  | [] => "/"
  | before => String.ofList before

def slashed (names : List String) : List Char :=
  names.flatMap fun name => '/' :: name.toList

theorem named_root : root.Named := by
  intro name member
  cases member

theorem Named.parent (named : path.Named) : path.parent.Named :=
  fun name member => named name (List.dropLast_subset _ member)

theorem Named.slash_not_mem {name : String} (named : path.Named) (member : name ∈ path.names) :
    '/' ∉ name.toList :=
  (named name member).2.2.2

theorem toList_render (path : Path) :
    path.render.toList = if path.names = [] then ['/'] else slashed path.names := by
  obtain ⟨_ | ⟨name, rest⟩⟩ := path
  · decide
  · rw [if_neg (List.cons_ne_nil name rest)]
    simp only [render, String.toList_join, slashed, List.flatMap_map, String.toList_append]
    rfl

theorem render_root : root.render = "/" := rfl

theorem slashed_append (front back : List String) :
    slashed (front ++ back) = slashed front ++ slashed back :=
  List.flatMap_append

/-- A path is the root, or has a last name. -/
theorem eq_root_or_append (path : Path) :
    path = root ∨ ∃ (front : List String) (name : String), path = ⟨front ++ [name]⟩ := by
  obtain ⟨names⟩ := path
  rcases List.eq_nil_or_concat names with empty | ⟨front, name, whole⟩
  · exact .inl (congrArg mk empty)
  · exact .inr ⟨front, name, by rw [whole, List.concat_eq_append]⟩

/-- The last slash of a path stands before its last name. -/
theorem toList_render_append (front : List String) (name : String) :
    (render ⟨front ++ [name]⟩).toList = slashed front ++ '/' :: name.toList := by
  rw [toList_render, if_neg (List.append_ne_nil_of_right_ne_nil front (List.cons_ne_nil name [])),
    slashed_append]
  simp [slashed]

/-! ### Cutting what was written -/

theorem cut_of_slash_not_mem {piece : List Char} (plain : '/' ∉ piece) : cut piece = [piece] := by
  induction piece with
  | nil => rfl
  | cons c rest ih =>
    obtain ⟨apart, plain⟩ := not_or.mp (mt List.mem_cons.mpr plain)
    rw [cut, if_neg (Ne.symm apart), ih plain]

/-- A slash cuts what stands before it from what stands after it. -/
theorem cut_append_slash (before after : List Char) :
    cut (before ++ '/' :: after) = cut before ++ cut after := by
  induction before with
  | nil => rfl
  | cons c rest ih =>
    rw [List.cons_append, cut, cut, ih]
    split
    · rfl
    · cases pieces : cut rest with
      | nil => exact absurd pieces (cut_ne_nil rest)
      | cons piece others => rfl

theorem cut_slashed (plain : ∀ name ∈ names, '/' ∉ name.toList) :
    cut (slashed names) = [] :: names.map String.toList := by
  induction names with
  | nil => rfl
  | cons name rest ih =>
    have first : '/' ∉ name.toList := plain name List.mem_cons_self
    have others := ih fun other member => plain other (List.mem_cons_of_mem name member)
    have tail : cut (name.toList ++ slashed rest) = name.toList :: rest.map String.toList := by
      cases rest with
      | nil =>
          rw [slashed, List.flatMap_nil, List.append_nil]
          exact cut_of_slash_not_mem first
      | cons next more =>
          have shape : slashed (next :: more) = '/' :: (next.toList ++ slashed more) := rfl
          rw [shape] at others ⊢
          rw [cut, if_pos rfl, List.cons.injEq] at others
          rw [cut_append_slash, cut_of_slash_not_mem first, others.2]
          rfl
    change cut ('/' :: (name.toList ++ slashed rest)) = _
    rw [cut, if_pos rfl, tail]
    rfl

theorem Named.cut_render (named : path.Named) (below : path ≠ root) :
    cut path.render.toList = [] :: path.names.map String.toList := by
  have nonempty : path.names ≠ [] := fun empty => below (congrArg mk empty)
  rw [toList_render, if_neg nonempty]
  exact cut_slashed fun name member => named.slash_not_mem member

theorem step_of_isName {name : String} (isName : IsName name) (start : Path) :
    start.step name = ⟨start.names ++ [name]⟩ := by
  obtain ⟨notEmpty, notDot, notDotDot, _⟩ := isName
  rw [step, if_neg (not_or.mpr ⟨notEmpty, notDot⟩), if_neg notDotDot]

theorem foldl_step (isName : ∀ name ∈ names, IsName name) (start : Path) :
    names.foldl step start = ⟨start.names ++ names⟩ := by
  induction names generalizing start with
  | nil => rw [List.foldl_nil, List.append_nil]
  | cons name rest ih =>
    rw [List.foldl_cons, step_of_isName (isName name List.mem_cons_self),
      ih fun other member => isName other (List.mem_cons_of_mem name member)]
    simp

/-- The text of a path can be read back. -/
theorem Named.walk_render (named : path.Named) : root.walk path.render = path := by
  by_cases top : path = root
  · rw [top]
    decide
  · have back : (path.names.map String.toList).map String.ofList = path.names := by
      simp
    have first : root.step (String.ofList []) = root := rfl
    rw [walk, named.cut_render top, List.map_cons, back, List.foldl_cons, first, foldl_step named]
    rfl

theorem isAbsoluteText_render (path : Path) : isAbsoluteText path.render = true := by
  rw [isAbsoluteText, toList_render]
  obtain ⟨_ | ⟨name, rest⟩⟩ := path
  · rfl
  · rfl

/-- The text of a path names the path, whatever the working directory. -/
theorem Named.ofText?_render (named : path.Named) (directory : Path) :
    ofText? directory path.render = some path := by
  have written : path.render ≠ "" := by
    intro nothing
    have absolute := isAbsoluteText_render path
    rw [nothing] at absolute
    cases absolute
  rw [ofText?, if_neg written, if_pos (isAbsoluteText_render path), named.walk_render]

theorem Named.render_inj (named : path.Named) (named' : path'.Named) :
    path.render = path'.render ↔ path = path' := by
  constructor
  · intro same
    rw [← named.walk_render, same, named'.walk_render]
  · exact congrArg render

theorem Named.render_eq_slash (named : path.Named) : path.render = "/" ↔ path = root :=
  named.render_inj named_root

/-! ### Normal form -/

theorem Named.normal_render (named : path.Named) : Normal path.render where
  absolute := isAbsoluteText_render path
  plain below piece member := by
    have below : path ≠ root := fun top => below (top ▸ render_root)
    rw [named.cut_render below, List.tail_cons, List.mem_map] at member
    obtain ⟨name, member, rfl⟩ := member
    rw [String.ofList_toList]
    exact named name member
  unclosed below closed := by
    rcases eq_root_or_append path with rfl | ⟨front, name, rfl⟩
    · exact below render_root
    · -- The last character is that of the last name, which holds no slash.
      have isName : IsName name := named name (by simp)
      rw [toList_render_append, List.getLast?_append, List.getLast?_cons] at closed
      cases last : name.toList.getLast? with
      | none => exact isName.1 (String.toList_eq_nil_iff.mp (List.getLast?_eq_none_iff.mp last))
      | some c =>
          rw [last] at closed
          cases closed
          exact isName.2.2.2 (List.mem_of_getLast? last)

/-! ### The directory above -/

theorem Named.textAbove_render (named : path.Named) :
    textAbove path.render = path.parent.render := by
  rcases eq_root_or_append path with rfl | ⟨front, name, rfl⟩
  · decide
  · have last : name ∈ front ++ [name] := List.mem_append_right front List.mem_cons_self
    have plain : ∀ c ∈ name.toList.reverse, decide (c ≠ '/') = true := by
      intro c member
      refine decide_eq_true ?_
      rintro rfl
      exact named.slash_not_mem last (List.mem_reverse.mp member)
    have before : ((render ⟨front ++ [name]⟩).toList.reverse.dropWhile (· ≠ '/')).drop 1 =
        (slashed front).reverse := by
      rw [toList_render_append, List.reverse_append, List.reverse_cons, List.append_assoc,
        List.dropWhile_append_of_pos plain]
      rfl
    have above : Path.parent ⟨front ++ [name]⟩ = ⟨front⟩ := congrArg mk List.dropLast_concat
    rw [textAbove, before, List.reverse_reverse, above]
    cases front with
    | nil => rfl
    | cons first rest =>
        refine String.toList_inj.mp ?_
        rw [toList_render, if_neg (List.cons_ne_nil first rest)]
        exact String.toList_ofList

/-! ### What lies below -/

theorem isBelow_iff :
    path.isBelow above = true ↔ ∃ names ≠ [], path.names = above.names ++ names := by
  rw [isBelow, Bool.and_eq_true, List.isPrefixOf_iff_prefix, decide_eq_true_eq]
  constructor
  · rintro ⟨⟨names, whole⟩, apart⟩
    refine ⟨names, ?_, whole.symm⟩
    rintro rfl
    rw [List.append_nil] at whole
    exact apart (congrArg mk whole.symm)
  · rintro ⟨names, proper, whole⟩
    refine ⟨⟨names, whole.symm⟩, ?_⟩
    rintro rfl
    exact proper (List.self_eq_append_right.mp whole)

theorem isBelow_parent (below : path ≠ root) : path.isBelow path.parent = true := by
  rcases eq_root_or_append path with top | ⟨front, name, rfl⟩
  · exact absurd top below
  · refine isBelow_iff.mpr ⟨[name], List.cons_ne_nil name [], ?_⟩
    rw [parent, List.dropLast_concat]

/-- A text with a slash after it starts the texts of the paths below it and no others. -/
theorem Named.render_slash_prefix_iff (named : path.Named) (named' : above.Named)
    (below : above ≠ root) :
    above.render.toList ++ ['/'] <+: path.render.toList ↔ path.isBelow above = true := by
  rw [isBelow_iff]
  constructor
  · rintro ⟨after, written⟩
    rw [List.append_assoc, List.singleton_append] at written
    have pieces : ([] :: above.names.map String.toList) ++ cut after = cut path.render.toList := by
      rw [← written, cut_append_slash, named'.cut_render below]
    have more : (cut after).map String.ofList ≠ [] := mt List.map_eq_nil_iff.mp (cut_ne_nil after)
    refine ⟨(cut after).map String.ofList, more, ?_⟩
    by_cases top : path = root
    · -- A lone slash is cut into fewer pieces than a name with a slash after it.
      have few : (cut path.render.toList).length = 2 := by
        rw [top]
        rfl
      have nonempty : 0 < above.names.length :=
        List.length_pos_iff.mpr fun empty => below (congrArg mk empty)
      have many : 0 < (cut after).length := List.length_pos_iff.mpr (cut_ne_nil after)
      rw [← pieces, List.length_append, List.length_cons, List.length_map] at few
      omega
    · rw [named.cut_render top, List.cons_append, List.cons.injEq] at pieces
      have names := congrArg (List.map String.ofList) pieces.2
      simpa using names.symm
  · rintro ⟨names, proper, whole⟩
    obtain ⟨name, rest, rfl⟩ := List.exists_cons_of_ne_nil proper
    have nonempty : above.names ≠ [] := fun empty => below (congrArg mk empty)
    have nonempty' : path.names ≠ [] := by
      rw [whole]
      exact List.append_ne_nil_of_left_ne_nil nonempty _
    refine ⟨name.toList ++ slashed rest, ?_⟩
    rw [toList_render, if_neg nonempty, toList_render, if_neg nonempty', whole, slashed_append]
    simp [slashed]

end Path

end OpenFiles
