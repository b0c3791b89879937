import Mathlib.Logic.Relation
import StructMatch.Command.Project
import StructMatch.Proofs.FileTree.Route
import StructMatch.Proofs.Path.Parent

/-!
# The search for a project

The search goes up from a path, one component at a time, until it meets a directory with the mark of
a project.  It ends, as the text of the path gets shorter with each step, and since it passes by
every path above the first one, it ends at the nearest of those that have the mark, or at none if
there is no such path: `projectRoot?_nearest`.
-/

namespace StructMatch

namespace FileTree

variable {tree : FileTree} {cwd : Location} {path other : Path} {name : String}

/-- Whether a path leads to a directory that has an entry of the given name. -/
def Contains (tree : FileTree) (cwd : Location) (path : Path) (name : String) : Prop :=
  ∃ location, tree.locate cwd path.components = .ok location ∧
    tree.entryAt? location = some .directory ∧
    (tree.entryAt? (location ++ [name])).isSome = true

theorem contains_congr (h : other.components = path.components) :
    tree.Contains cwd other name ↔ tree.Contains cwd path name := by
  rw [Contains, Contains, h]

/-- Going on from a path by a name leads to something exactly if the path leads to a directory that
contains it. -/
theorem hasEntry_join_iff (hname : IsFileName name) :
    tree.hasEntry cwd (path.join ⟨name⟩) = true ↔ tree.Contains cwd path name := by
  have hcomponents := path.components_join hname
  have htext : (path.join ⟨name⟩).text ≠ "" := by
    intro hempty
    rw [Path.components_of_text_empty hempty] at hcomponents
    exact absurd hcomponents (by simp)
  have hend := path.endsInDirectory_join hname
  unfold hasEntry find
  rw [if_neg (by simpa using htext), hcomponents]
  constructor
  · intro h
    cases hlocate : tree.locate cwd (path.components ++ [.name name]) with
    | error e => simp [hlocate] at h
    | ok location =>
        obtain ⟨before, hbefore, hstep⟩ := locate_concat_eq_ok.1 hlocate
        obtain ⟨rfl, hcase⟩ := step_eq_ok hstep
        refine ⟨before, hbefore, by simpa using hcase, ?_⟩
        cases hentry : tree.entryAt? (before ++ [name]) with
        | none => simp [hlocate, Location.next, hentry] at h
        | some entry => rfl
  · rintro ⟨before, hbefore, hdirectory, hsome⟩
    have hlocate : tree.locate cwd (path.components ++ [.name name]) = .ok (before ++ [name]) :=
      locate_concat_eq_ok.2 ⟨before, hbefore, step_of_directory hdirectory _⟩
    obtain ⟨entry, hentry⟩ := Option.isSome_iff_exists.1 hsome
    cases entry <;> simp [hlocate, hentry, hend]

end FileTree

namespace Command

variable {tree : FileTree} {cwd : Location} {path above start root : Path}

theorem isFileName_projectMark : IsFileName projectMark := by decide

/-- A project begins where a directory contains the mark. -/
theorem isProjectRoot_iff : isProjectRoot tree cwd path = true ↔
    tree.Contains cwd path projectMark :=
  FileTree.hasEntry_join_iff isFileName_projectMark

/-! ## The steps of the search -/

theorem projectRoot?_of_isProjectRoot (h : isProjectRoot tree cwd path = true) :
    projectRoot? tree cwd path = some path := by
  rw [projectRoot?, if_pos h]

theorem projectRoot?_of_parent? (h : isProjectRoot tree cwd path = false)
    (hparent : path.parent? = some above) :
    projectRoot? tree cwd path = projectRoot? tree cwd above := by
  rw [projectRoot?, if_neg (by simp [h])]
  split
  · next hnone => exact absurd (hnone.symm.trans hparent) (by simp)
  · next hsome => rw [Option.some.inj (hsome.symm.trans hparent)]

theorem projectRoot?_of_no_parent (h : isProjectRoot tree cwd path = false)
    (hparent : path.parent? = none) : projectRoot? tree cwd path = none := by
  rw [projectRoot?, if_neg (by simp [h])]
  split
  · rfl
  · next hsome => exact absurd (hsome.symm.trans hparent) (by simp)

/-! ## Where it ends -/

/-- Where a path that does not begin a project has a parent, the roots above the path are those
above its parent. -/
theorem isAbove_of_contains (hmark : ¬isProjectRoot tree cwd path = true)
    (hparent : path.parent? = some above) {other : Path} (hother : other.IsAbove path)
    (hcontains : tree.Contains cwd other projectMark) : other.IsAbove above := by
  rcases (Path.isAbove_iff_of_parent? hparent).1 hother with heq | habove
  · exact absurd (isProjectRoot_iff.2 ((FileTree.contains_congr heq).1 hcontains)) hmark
  · exact habove

/-- Whether a path is the nearest root of a project on the way up from the start. -/
structure IsNearestRoot (tree : FileTree) (cwd : Location) (start root : Path) : Prop where
  /-- The path is spelled as it is met on the way. -/
  reached : Relation.ReflTransGen (fun path above => path.parent? = some above) start root
  above : root.IsAbove start
  marked : tree.Contains cwd root projectMark
  nearest : ∀ path : Path, path.IsAbove start → tree.Contains cwd path projectMark →
    path.IsAbove root

/-- The path at which the search ends is the nearest root. -/
theorem isNearestRoot_of_projectRoot? (h : projectRoot? tree cwd start = some root) :
    IsNearestRoot tree cwd start root := by
  -- by induction along the search: a step up leaves only the path itself behind
  fun_induction projectRoot? tree cwd start with
  | case1 path hmark =>
      obtain rfl := Option.some.inj h
      exact ⟨.refl, .refl path, isProjectRoot_iff.1 hmark, fun _ hother _ => hother⟩
  | case2 path hmark hparent => exact absurd h (by simp)
  | case3 path hmark above hparent ih =>
      have hnearest := ih h
      exact ⟨.head hparent hnearest.reached,
        hnearest.above.trans (Path.isAbove_of_parent? hparent), hnearest.marked,
        fun other hother hcontains => hnearest.nearest other
          (isAbove_of_contains hmark hparent hother hcontains) hcontains⟩

/-- A search that ends without a root has met no mark on the way. -/
theorem not_contains_of_projectRoot?_eq_none (h : projectRoot? tree cwd start = none)
    (habove : path.IsAbove start) : ¬tree.Contains cwd path projectMark := by
  fun_induction projectRoot? tree cwd start with
  | case1 start hmark => exact absurd h (by simp)
  | case2 start hmark hparent =>
      have heq := (Path.isAbove_iff_of_no_parent hparent).1 habove
      rwa [FileTree.contains_congr heq, ← isProjectRoot_iff]
  | case3 start hmark above hparent ih =>
      exact fun hcontains =>
        ih h (isAbove_of_contains hmark hparent habove hcontains) hcontains

/-- The search depends on which of the paths above the first one begin a project. -/
theorem projectRoot?_congr {tree' : FileTree}
    (h : ∀ path : Path, path.IsAbove start →
      isProjectRoot tree' cwd path = isProjectRoot tree cwd path) :
    projectRoot? tree' cwd start = projectRoot? tree cwd start := by
  fun_induction projectRoot? tree cwd start with
  | case1 path hmark =>
      exact projectRoot?_of_isProjectRoot ((h path (.refl path)).trans hmark)
  | case2 path hmark hparent =>
      have hnone := (h path (.refl path)).trans (Bool.eq_false_iff.2 hmark)
      exact projectRoot?_of_no_parent hnone hparent
  | case3 path hmark above hparent ih =>
      have hnone := (h path (.refl path)).trans (Bool.eq_false_iff.2 hmark)
      rw [projectRoot?_of_parent? hnone hparent]
      exact ih fun other hother => h other (hother.trans (Path.isAbove_of_parent? hparent))

/-- The search for a project ends at the longest one of a path and the paths above it that contains
the mark of a project, and it fails exactly if none of them does. -/
theorem projectRoot?_nearest (tree : FileTree) (cwd : Location) (start : Path) :
    (∀ root, projectRoot? tree cwd start = some root → IsNearestRoot tree cwd start root) ∧
    (projectRoot? tree cwd start = none ↔
      ∀ path : Path, path.IsAbove start → ¬tree.Contains cwd path projectMark) := by
  refine ⟨fun _ => isNearestRoot_of_projectRoot?, fun h path habove =>
    not_contains_of_projectRoot?_eq_none h habove, fun h => ?_⟩
  cases hroot : projectRoot? tree cwd start with
  | none => rfl
  | some root =>
      have hnearest := isNearestRoot_of_projectRoot? hroot
      exact absurd hnearest.marked (h root hnearest.above)

/-- A project that lies inside of another one. -/
def nestedProjects : FileTree :=
  ⟨[(["Cargo.toml"], .file (.text "")), (["work"], .directory), (["work", "inner"], .directory),
    (["work", "inner", "Cargo.toml"], .file (.text "")), (["work", "inner", "src"], .directory)]⟩

/-- From the sources of the inner project the search ends at the inner project, though the root is
that of a project as well, and without any entries it fails. -/
theorem projectRoot?_nearest_nestedProjects :
    projectRoot? nestedProjects [] ⟨"/work/inner/src"⟩ = some ⟨"/work/inner"⟩ ∧
      nestedProjects.Contains [] ⟨"/"⟩ projectMark ∧
      IsNearestRoot nestedProjects [] ⟨"/work/inner/src"⟩ ⟨"/work/inner"⟩ ∧
      projectRoot? .empty [] ⟨"/work/inner/src"⟩ = none := by
  have hfound : projectRoot? nestedProjects [] ⟨"/work/inner/src"⟩ = some ⟨"/work/inner"⟩ := by
    have hparent : (⟨"/work/inner/src"⟩ : Path).parent? = some ⟨"/work/inner"⟩ := by
      decide
    rw [projectRoot?_of_parent? (by decide) hparent,
      projectRoot?_of_isProjectRoot (by decide)]
  refine ⟨hfound, isProjectRoot_iff.1 (by decide), (projectRoot?_nearest _ _ _).1 _ hfound,
    (projectRoot?_nearest _ _ _).2.2 ?_⟩
  rintro path - ⟨location, -, -, hsome⟩
  rw [FileTree.entryAt?_of_ne_nil (by simp)] at hsome
  exact absurd hsome (by simp [FileTree.empty])

end Command

end StructMatch
