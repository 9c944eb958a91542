import Mathlib.Logic.Relation
import OpenFiles.Proofs.FileTree.WorkingDirectory

/-!
# Normal forms of path text

A text names a path by its components: what stands between its slashes, where nothing at all and
`.` do not count. Each `..` cancels the component before it, and is dropped where there is none.
`Cancels` is one such step, anywhere in the list. In whatever order the steps are taken they end
at the same list, and that is where a walk ends: `resolves_iff`.

`absolute` writes this list as text. The result is in normal form and names itself. A directory
that a text names can be moved to first, or its text can be put in front with a slash:
`absolute_laws`.
-/

namespace OpenFiles

namespace Path

variable {path start : Path} {pieces pieces' names : List String} {text : String}

/-- The components of a text: what stands between its slashes, except nothing and `.`. -/
def components (text : String) : List String :=
  ((text.toList.splitOn '/').map String.ofList).filter fun piece => piece ≠ "" ∧ piece ≠ "."

/-- One `..` is carried out. It takes the component before it away, which is none that is to be
carried out itself; where no component is before it, it is dropped. -/
inductive Cancels : List String → List String → Prop
  | up {name : String} (plain : name ≠ "..") (before after : List String) :
    Cancels (before ++ name :: ".." :: after) (before ++ after)
  | top (after : List String) : Cancels (".." :: after) after

/-- Every `..` has been carried out. -/
def Resolves (pieces names : List String) : Prop :=
  Relation.ReflTransGen Cancels pieces names ∧ ".." ∉ names

def Plain (pieces : List String) : Prop := ∀ piece ∈ pieces, piece = ".." ∨ IsName piece

theorem cut_eq_splitOn (text : List Char) : cut text = text.splitOn '/' := by
  induction text with
  | nil => rfl
  | cons c rest ih =>
    rw [List.splitOn, List.splitOnP_cons_eq_if_modifyHead, ← List.splitOn, ← ih, cut]
    by_cases slash : c = '/'
    · simp [slash]
    · simp only [slash, if_false, beq_iff_eq]
      cases pieces : cut rest with
      | nil => exact absurd pieces (cut_ne_nil rest)
      | cons piece others => rfl

theorem plain_components (text : String) : Plain (components text) := by
  intro piece member
  rw [components, ← cut_eq_splitOn, List.mem_filter, decide_eq_true_eq] at member
  obtain ⟨between, nonempty, noDot⟩ := member
  obtain ⟨chars, inCut, rfl⟩ := List.mem_map.mp between
  by_cases up : String.ofList chars = ".."
  · exact .inl up
  · refine .inr ⟨nonempty, noDot, up, ?_⟩
    rw [String.toList_ofList]
    exact slash_not_mem_of_mem_cut inCut

/-- A walk is made of steps along the components alone. -/
theorem walk_eq_foldl (start : Path) (text : String) :
    start.walk text = (components text).foldl step start := by
  rw [walk, components, List.foldl_filter, cut_eq_splitOn]
  congr 1
  funext path piece
  by_cases stays : piece = "" ∨ piece = "."
  · have dropped : ¬ decide (piece ≠ "" ∧ piece ≠ ".") = true := by
      rw [decide_eq_true_eq]
      exact fun both => stays.elim both.1 both.2
    rw [if_neg dropped, step, if_pos stays]
  · rw [if_pos (decide_eq_true (not_or.mp stays))]

theorem walk_append_slash (start : Path) (text rest : String) :
    start.walk (text ++ "/" ++ rest) = (start.walk text).walk rest := by
  have whole : (text ++ "/" ++ rest).toList = text.toList ++ '/' :: rest.toList := by
    rw [String.toList_append, String.toList_append, List.append_assoc]
    rfl
  rw [walk, whole, cut_append_slash, List.map_append, List.foldl_append]
  rfl

theorem Named.plain (named : path.Named) : Plain path.names := fun name member =>
  .inr (named name member)

theorem Named.up_not_mem (named : path.Named) : ".." ∉ path.names := fun member =>
  (named ".." member).2.2.1 rfl

theorem step_up (path : Path) : path.step ".." = path.parent := rfl

/-- A walk carries out one `..` after the other, the first one first. -/
theorem cancels_foldl (named : path.Named) (plain : Plain pieces) :
    Relation.ReflTransGen Cancels (path.names ++ pieces) (pieces.foldl step path).names := by
  induction pieces generalizing path with
  | nil =>
    rw [List.append_nil]
    exact .refl
  | cons piece rest ih =>
    have plain' : Plain rest := fun other member => plain other (List.mem_cons_of_mem piece member)
    rw [List.foldl_cons]
    rcases plain piece List.mem_cons_self with rfl | isName
    · rw [step_up]
      rcases eq_root_or_append path with rfl | ⟨front, name, rfl⟩
      · exact .head (.top rest) (ih named_root plain')
      · have last : name ≠ ".." := (named name (by simp)).2.2.1
        have first : Cancels (front ++ [name] ++ ".." :: rest) (front ++ rest) := by
          rw [List.append_assoc]
          exact .up last front rest
        have above : Path.parent ⟨front ++ [name]⟩ = ⟨front⟩ := congrArg mk List.dropLast_concat
        have named' : Named ⟨front⟩ := above ▸ named.parent
        rw [above]
        exact .head first (ih named' plain')
    · have named' : Named ⟨path.names ++ [piece]⟩ := by
        intro name member
        rcases List.mem_append.mp member with member | member
        · exact named name member
        · rw [List.mem_singleton.mp member]
          exact isName
      rw [step_of_isName isName, List.append_cons]
      exact ih named' plain'

/-- Nothing new comes in when a `..` is carried out. -/
theorem Cancels.subset (cancels : Cancels pieces pieces') : pieces' ⊆ pieces := by
  cases cancels with
  | up plain before after => grind
  | top after => exact List.subset_cons_self _ _

/-- Steps along a list lead to the same place after a `..` has been carried out. -/
theorem Cancels.foldl_step (cancels : Cancels pieces pieces') (plain : Plain pieces) :
    pieces.foldl step root = pieces'.foldl step root := by
  cases cancels with
  | @up name notUp before after =>
      have isName : IsName name := (plain name (by simp)).resolve_left notUp
      simp only [List.foldl_append, List.foldl_cons, step_of_isName isName, step_up, parent,
        List.dropLast_concat]
  | top after => rfl

/-- All ways to carry out every `..` lead to where steps along the list lead. -/
theorem Resolves.foldl_step (resolves : Resolves pieces names) (plain : Plain pieces) :
    pieces.foldl step root = ⟨names⟩ := by
  obtain ⟨cancels, done⟩ := resolves
  induction cancels using Relation.ReflTransGen.head_induction_on with
  | refl =>
    have isName : ∀ name ∈ names, IsName name := fun name member =>
      (plain name member).resolve_left fun up => done (up ▸ member)
    exact Path.foldl_step isName root
  | head first _ ih =>
    rw [first.foldl_step plain]
    exact ih fun piece member => plain piece (first.subset member)

/-- The names of the place that a walk reaches are what is left of the names that it starts from
and the components of the text. -/
theorem resolves_iff (named : start.Named) (text : String) :
    Resolves (start.names ++ components text) names ↔ names = (start.walk text).names := by
  have plain : Plain (start.names ++ components text) := by
    intro piece member
    rcases List.mem_append.mp member with member | member
    · exact named.plain piece member
    · exact plain_components text piece member
  constructor
  · intro resolves
    have reached := resolves.foldl_step plain
    rw [List.foldl_append, Path.foldl_step named root, ← walk_eq_foldl] at reached
    exact congrArg Path.names reached.symm
  · rintro rfl
    have named' : (start.walk text).Named := walk_isName named
    have cancels := cancels_foldl named (plain_components text)
    rw [← walk_eq_foldl] at cancels
    exact ⟨cancels, named'.up_not_mem⟩

theorem Named.components_render (named : path.Named) : components path.render = path.names := by
  rw [components, ← cut_eq_splitOn]
  by_cases top : path = root
  · rw [top]
    rfl
  · have all : ∀ name ∈ path.names, decide (name ≠ "" ∧ name ≠ ".") = true := fun name member =>
      decide_eq_true ⟨(named name member).1, (named name member).2.1⟩
    have back : (path.names.map String.toList).map String.ofList = path.names := by
      simp
    rw [named.cut_render top, List.map_cons, back, List.filter_cons_of_neg (by decide),
      List.filter_eq_self.mpr all]

end Path

namespace FileTree

variable {fs later : FileTree} {text rest : String} {path : Path}

def absolute (fs : FileTree) (text : String) : Except TreeError String :=
  (fs.pathOf text).map Path.render

/-- The components that a text names a path by: its own, after those of the working directory if
it does not start with a slash. -/
def spelled (fs : FileTree) (text : String) : List String :=
  (if Path.isAbsoluteText text then [] else Path.components fs.directory.render) ++
    Path.components text

def startOf (fs : FileTree) (text : String) : Path :=
  if Path.isAbsoluteText text then Path.root else fs.directory

theorem pathOf_eq_ok_iff :
    fs.pathOf text = .ok path ↔ text ≠ "" ∧ (fs.startOf text).walk text = path := by
  unfold pathOf Path.ofText? startOf
  by_cases empty : text = ""
  · simp [empty]
  · cases absolute : Path.isAbsoluteText text <;> simp [empty]

theorem Shaped.named_startOf (shaped : fs.Shaped) (text : String) : (fs.startOf text).Named := by
  unfold startOf
  split
  · exact Path.named_root
  · exact shaped.start

theorem Shaped.spelled_eq (shaped : fs.Shaped) (text : String) :
    fs.spelled text = (fs.startOf text).names ++ Path.components text := by
  unfold spelled startOf
  split
  · rfl
  · rw [shaped.start.components_render]

theorem absolute_of_pathOf (names : fs.pathOf text = .ok path) :
    fs.absolute text = .ok path.render := by
  rw [absolute, names]
  rfl

/-- The text of a path names that path. -/
theorem absolute_render (named : path.Named) : fs.absolute path.render = .ok path.render := by
  refine absolute_of_pathOf ?_
  rw [pathOf, named.ofText?_render]

/-- What is read after the working directory has moved to a text can be read before, with the text
in front. -/
theorem absolute_of_changeDirectory (moved : fs.changeDirectory text = .ok later)
    (nonempty : rest ≠ "") (relative : Path.isAbsoluteText rest = false) :
    later.absolute rest = fs.absolute (text ++ "/" ++ rest) := by
  obtain ⟨path, names, _, rfl⟩ := changeDirectory_eq_ok_iff.mp moved
  obtain ⟨textNonempty, reached⟩ := pathOf_eq_ok_iff.mp names
  have after : pathOf { fs with directory := path } rest = .ok (path.walk rest) := by
    refine pathOf_eq_ok_iff.mpr ⟨nonempty, ?_⟩
    rw [startOf, relative]
    rfl
  have before : fs.pathOf (text ++ "/" ++ rest) = .ok (path.walk rest) := by
    obtain ⟨c, more, first⟩ : ∃ c more, text.toList = c :: more :=
      List.exists_cons_of_ne_nil (mt String.toList_eq_nil_iff.mp textNonempty)
    have alike : Path.isAbsoluteText (text ++ "/" ++ rest) = Path.isAbsoluteText text := by
      simp only [Path.isAbsoluteText, String.toList_append, first, List.cons_append,
        List.head?_cons]
    refine pathOf_eq_ok_iff.mpr ⟨?_, ?_⟩
    · intro empty
      have blank := congrArg String.toList empty
      simp [first] at blank
    · rw [startOf, alike, ← startOf, Path.walk_append_slash, reached]
  rw [absolute_of_pathOf after, absolute_of_pathOf before]

/-- In every tree, empty text names no path, and every other text names one. The text of that
path is in normal form; its components are all that is left of the components that the path is
named by when every `..` has been carried out, in whatever order; and it names itself. After
the working directory has moved to a text, other text is read as if that text, and a slash, stood
before it. -/
theorem absolute_laws (reached : fs.Reached) (text : String) :
    (text = "" → fs.absolute text = .error .invalidPath) ∧
    (text ≠ "" → ∃ full, fs.absolute text = .ok full ∧ Path.Normal full ∧
      (∀ names, Path.Resolves (fs.spelled text) names ↔ names = Path.components full) ∧
      fs.absolute full = .ok full) ∧
    ∀ later rest, rest ≠ "" → Path.isAbsoluteText rest = false →
      fs.changeDirectory text = .ok later →
        later.absolute rest = fs.absolute (text ++ "/" ++ rest) := by
  have shaped : fs.Shaped := reached.shaped
  refine ⟨?_, ?_, ?_⟩
  · rintro rfl
    rfl
  · intro nonempty
    have names : fs.pathOf text = .ok ((fs.startOf text).walk text) :=
      pathOf_eq_ok_iff.mpr ⟨nonempty, rfl⟩
    have named : ((fs.startOf text).walk text).Named := shaped.named_of_pathOf names
    refine ⟨_, absolute_of_pathOf names, named.normal_render, ?_, absolute_render named⟩
    intro left
    rw [shaped.spelled_eq, Path.resolves_iff (shaped.named_startOf text), named.components_render]
  · intro later rest nonempty relative moved
    exact absolute_of_changeDirectory moved nonempty relative

/-- A text that leaves the working directory and goes above the root, and a move to a text that
goes up and down. -/
theorem absolute_laws_below_home :
    let fs := [.makeDirectory "/home", .makeDirectory "/home/a", .changeDirectory "home"].foldl
      FileTree.after initial
    fs.absolute "a//./../../../x/" = .ok "/x" ∧ Path.Normal "/x" ∧
      (∀ names, Path.Resolves ["home", "a", "..", "..", "..", "x"] names ↔ names = ["x"]) ∧
      fs.absolute "/x" = .ok "/x" ∧
      ∃ later, fs.changeDirectory "../home/./a" = .ok later ∧
        later.absolute "..//b" = .ok "/home/b" ∧
        fs.absolute "../home/./a/..//b" = .ok "/home/b" := by
  intro fs
  have reached : fs.Reached := Reached.initial.foldl_after _
  obtain ⟨_, named, _⟩ := absolute_laws reached "a//./../../../x/"
  obtain ⟨full, names, normal, resolves, again⟩ := named (by decide)
  have value : fs.absolute "a//./../../../x/" = .ok "/x" := rfl
  cases names.symm.trans value
  have spelled : fs.spelled "a//./../../../x/" = ["home", "a", "..", "..", "..", "x"] := by decide
  have left : Path.components "/x" = ["x"] := by decide
  rw [spelled, left] at resolves
  obtain ⟨_, _, composed⟩ := absolute_laws reached "../home/./a"
  have moved : fs.changeDirectory "../home/./a" = .ok { fs with directory := ⟨["home", "a"]⟩ } :=
    rfl
  have same := composed _ "..//b" (by decide) (by decide) moved
  have below : absolute { fs with directory := ⟨["home", "a"]⟩ } "..//b" = .ok "/home/b" := rfl
  exact ⟨value, normal, resolves, again, _, moved, below, same.symm.trans below⟩

end FileTree

end OpenFiles
