import StructMatch.Command.Session
import StructMatch.Proofs.Batch.Repair
import StructMatch.Proofs.Command.Project

/-!
# Checking after generating

A check that reports problems advises to generate, but generating writes the matchers of the types
and nothing else.  So a check after it succeeds exactly if no two types share a file and no file is
left over below the output directory, `check_after_generate`.  The matcher of a struct that is gone
is such a file, and it is reported however often the advice is followed,
`orphan_outlasts_generate`.
-/

namespace StructMatch.Command

open FileTree

/-! ## Codes of calls -/

theorem CallError.code_ne_zero (error : CallError) : error.code ≠ 0 := by
  unfold code
  split
  · split <;> decide
  · split <;> decide
  · decide

section Codes

variable {w : Workspace} {tree : FileTree} {cwd : Location} {source : SourceOptions}
  {p : Presentation}

/-- A call that generates succeeds exactly if it finds a project and the batch succeeds. -/
theorem generate_code_eq_zero_iff : (generate w source p).2.code = 0 ↔
    ∃ project paths, Project.find w.tree w.cwd = .ok project ∧
      ((project.settings source).run w).2.result = .ok paths := by
  unfold generate
  cases hproject : Project.find w.tree w.cwd with
  | error e => simpa [Outcome.ofError] using e.code_ne_zero
  | ok project =>
      cases hresult : ((project.settings source).run w).2.result with
      | error e => simpa [Outcome.ofError, hresult] using (CallError.batch e).code_ne_zero
      | ok paths => simp [hresult]

/-- A call that generates leaves what the batch leaves. -/
theorem generate_tree {project : Project} (h : Project.find w.tree w.cwd = .ok project) :
    (generate w source p).1 = ((project.settings source).run w).1 := by
  unfold generate
  rw [h]
  dsimp only
  split <;> rfl

/-- The files that need attention are those that are not up to date. -/
theorem problems_eq_zero_iff (project : Project) {reports : List CheckReport} :
    (CheckSummary.ofReports project reports).problems = 0 ↔
      ∀ report ∈ reports, report.status = .upToDate := by
  simp [CheckSummary.problems, CheckSummary.ofReports, CheckStatus.isProblem, List.countP_eq_zero]

/-- A call that checks succeeds exactly if it finds a project with everything up to date. -/
theorem check_code_eq_zero_iff : (check tree cwd source p).code = 0 ↔
    ∃ project, Project.find tree cwd = .ok project ∧
      (project.settings source).FindsUpToDate tree cwd := by
  unfold check BatchSettings.FindsUpToDate
  cases hproject : Project.find tree cwd with
  | error e => simpa [Outcome.ofError] using e.code_ne_zero
  | ok project =>
      simp only [Except.ok.injEq, exists_eq_left']
      cases hresult : ((project.settings source).check tree cwd).result with
      | error e => simpa [Outcome.ofError] using (CallError.batch e).code_ne_zero
      | ok reports =>
          simp only [Except.ok.injEq, exists_eq_left', ← problems_eq_zero_iff project]
          split
          · next hnone => simp [hnone]
          · next hsome => simpa [Outcome.ofError, hsome] using CallError.code_ne_zero _

end Codes

/-! ## A check after a batch -/

theorem Project.root_text_ne_empty {tree : FileTree} {start : Location} {project : Project}
    (h : Project.find tree start = .ok project) : project.root.text ≠ "" := by
  intro hempty
  have habsolute := isAbsolute_root h
  rw [Path.isAbsolute, hempty] at habsolute
  exact absurd habsolute (by decide)

/-- A path that goes on from a path that is not empty is not empty. -/
theorem text_join_ne_empty {path : Path} (h : path.text ≠ "") (other : Path) :
    (path.join other).text ≠ "" := by
  unfold Path.join
  split
  · next hjoin =>
      intro hempty
      simp [Path.isAbsolute, hempty, h] at hjoin
  · split <;> simp [h]

section Repair

variable {w : Workspace} {source : SourceOptions} {p : Presentation}

/-- A check that follows a batch of the project. -/
theorem check_code_of_run {project : Project} {types : List StructType} {paths : List Path}
    (hlawful : w.tree.Lawful) (hcwd : w.tree.entryAt? w.cwd = some .directory)
    (hproject : Project.find w.tree w.cwd = .ok project)
    (hdiscover : ((project.settings source).discover w.tree w.cwd).result = .ok types)
    (hrun : ((project.settings source).run w).2.result = .ok paths)
    (hlegible : ∀ type ∈ types, ((project.settings source).provenanceOf type).Legible)
    (hsources : (project.settings source).SparesSources w.cwd types)
    (hspares : SparesProject (project.settings source) types) :
    (check ((project.settings source).run w).1 w.cwd source p).code = 0 ↔
      types.Pairwise (fun a b => ¬SharesFile a b) ∧
      (types ≠ [] ∨ w.tree.isDirectory w.cwd (project.settings source).outputDir = true →
        ∀ way, ¬(project.settings source).IsLeftover w.tree w.cwd types way) := by
  have htext : (project.settings source).outputDir.text ≠ "" :=
    text_join_ne_empty (Project.root_text_ne_empty hproject) _
  have hnames := (project.settings source).isFileName_matcherWay hlawful hdiscover
  obtain ⟨htree, -⟩ := (project.settings source).generatedAll_of_run hdiscover hrun
  have hagain : Project.find ((project.settings source).run w).1 w.cwd = .ok project := by
    rw [htree, Project.find_generatedAll _ hlawful hcwd hnames hspares, hproject]
  rw [check_code_eq_zero_iff, hagain, ← (project.settings source).findsUpToDate_run_iff hlawful
    hcwd htext hdiscover hrun hlegible hsources]
  simp

/-- A call that generates carries out the batch of its project. -/
theorem execute_generate {arguments : List String}
    (h : Request.parse? arguments = some (.run .generate source p)) :
    execute w arguments = generate w source p := by
  rw [execute, h]

/-- A call that checks leaves the tree as it is. -/
theorem execute_check {arguments : List String}
    (h : Request.parse? arguments = some (.run .check source p)) :
    execute w arguments = (w.tree, check w.tree w.cwd source p) := by
  rw [execute, h]

/-- After a call that generates with success, a call that checks with the same options succeeds
exactly if no two types share a file, and nothing is left over in an output directory that was there
before or was made for the matchers.  This takes for granted that the matchers can be recognized,
that none of them is written over a file that declares a type, and that no directory is made for
them by which another project or configuration would be found. -/
theorem check_after_generate {arguments arguments' : List String} {p' : Presentation}
    (hlawful : w.tree.Lawful) (hcwd : w.tree.entryAt? w.cwd = some .directory)
    (hgenerate : Request.parse? arguments = some (.run .generate source p))
    (hcheck : Request.parse? arguments' = some (.run .check source p'))
    (hcode : (execute w arguments).2.code = 0) :
    ∃ project types, Project.find w.tree w.cwd = .ok project ∧
      ((project.settings source).discover w.tree w.cwd).result = .ok types ∧
      ((∀ type ∈ types, ((project.settings source).provenanceOf type).Legible) →
        (project.settings source).SparesSources w.cwd types →
        SparesProject (project.settings source) types →
        ∀ faults,
          (execute ⟨(execute w arguments).1, w.cwd, faults⟩ arguments').2.code = 0 ↔
            types.Pairwise (fun a b => ¬SharesFile a b) ∧
            (types ≠ [] ∨ w.tree.isDirectory w.cwd (project.settings source).outputDir = true →
              ∀ way, ¬(project.settings source).IsLeftover w.tree w.cwd types way)) := by
  rw [execute_generate hgenerate] at hcode ⊢
  obtain ⟨project, paths, hproject, hrun⟩ := generate_code_eq_zero_iff.1 hcode
  -- a batch that succeeds has discovered its types
  cases hdiscover : ((project.settings source).discover w.tree w.cwd).result with
  | error e =>
      unfold BatchSettings.run at hrun
      simp [hdiscover] at hrun
  | ok types =>
      refine ⟨project, types, hproject, hdiscover, fun hlegible hsources hspares faults => ?_⟩
      rw [execute_check hcheck, generate_tree hproject]
      exact check_code_of_run hlawful hcwd hproject hdiscover hrun hlegible hsources hspares

end Repair

/-! ## Projects of one type -/

/-- A project that declares one struct. -/
def userProject : FileTree :=
  ⟨[(["Cargo.toml"], .file (.text "")), (["src"], .directory),
    (["src", "lib.rs"], .file (.text "pub struct User;"))]⟩

/-- The same project with the matcher of a struct that is gone. -/
def orphanProject : FileTree :=
  ⟨[(["Cargo.toml"], .file (.text "")), (["src"], .directory), (["src", "generated"], .directory),
    (["src", "generated", "old_matcher.rs"],
      .file (.text (Provenance.header ⟨defaultGeneratorName, "crate::Old"⟩))),
    (["src", "lib.rs"], .file (.text "pub struct User;"))]⟩

/-- The project that is found in both. -/
def topProject : Project := ⟨Location.path [], {}⟩

/-- The settings of a call without options there. -/
def topSettings : BatchSettings := topProject.settings {}

/-- The type that is found there. -/
def topType : StructType := ⟨"User", .root, some ⟨⟨"/src/lib.rs"⟩, []⟩⟩

/-- Where the type is found, its matcher is generated if the file can be written. -/
theorem run_topType {tree : FileTree}
    (hdiscover : (topSettings.discover tree []).result = .ok [topType])
    (hfields : tree.fieldsOf [] topType = .ok [])
    (hreplace : (tree.replaceFile noRefusals [] (topSettings.artifactDir topType)
      (topSettings.artifactPath topType) "").2 = .ok ()) :
    (topSettings.run ⟨tree, [], noFaults⟩).2.result = .ok [⟨"/src/generated/user_matcher.rs"⟩] := by
  have hruntime : IsPlainRuntime topSettings.runtime := by decide +kernel
  have hpath : topSettings.artifactPath topType = ⟨"/src/generated/user_matcher.rs"⟩ := by
    decide +kernel
  rw [← hpath]
  exact topSettings.run_of_renderable (w := ⟨tree, [], noFaults⟩) hruntime hdiscover (by decide)
    (.of_fieldsOf hfields (by decide) (by simp)) "" hreplace

/-- In the first project the matcher of the type is generated. -/
theorem generates_userProject : Project.find userProject [] = .ok topProject ∧
    (topSettings.discover userProject []).result = .ok [topType] ∧
    (topSettings.run ⟨userProject, [], noFaults⟩).2.result =
      .ok [⟨"/src/generated/user_matcher.rs"⟩] := by
  have hdiscover : (topSettings.discover userProject []).result = .ok [topType] := by
    decide +kernel
  exact ⟨Project.find_of_root (by decide) (by decide), hdiscover,
    run_topType hdiscover (by decide +kernel) (by decide +kernel)⟩

/-- It is generated in the second one as well. -/
theorem generates_orphanProject : Project.find orphanProject [] = .ok topProject ∧
    (topSettings.discover orphanProject []).result = .ok [topType] ∧
    (topSettings.run ⟨orphanProject, [], noFaults⟩).2.result =
      .ok [⟨"/src/generated/user_matcher.rs"⟩] := by
  have hwalk : orphanProject.walk [] ⟨"/src"⟩ =
      orphanProject.entries.filterMap (listed? ["src"]) :=
    walk_of_pairwise (by decide) (by decide)
  have hroots : topSettings.effectiveScanPaths = [⟨"/src"⟩] := by decide
  have hdiscover : (topSettings.discover orphanProject []).result = .ok [topType] := by
    refine topSettings.discover_of_pairwise hroots (by decide) ?_ (by decide)
    rw [hwalk]
    decide +kernel
  exact ⟨Project.find_of_root (by decide) (by decide), hdiscover,
    run_topType hdiscover (by decide +kernel) (by decide +kernel)⟩

/-- What the type of both projects is called stands in the way of nothing. -/
theorem spares_topType : (∀ type ∈ [topType], (topSettings.provenanceOf type).Legible) ∧
    topSettings.SparesSources [] [topType] ∧ SparesProject topSettings [topType] := by
  refine ⟨fun type htype => ?_, fun a ha b hb declaration hdeclaration => ?_, by decide⟩
  · obtain rfl := List.mem_singleton.1 htype
    exact (Provenance.legible_iff (by decide) (by decide)).2 (by decide)
  · obtain rfl := List.mem_singleton.1 ha
    obtain rfl := List.mem_singleton.1 hb
    obtain rfl := Option.some.inj hdeclaration
    decide

/-- Nothing is left over where the output directory is none. -/
theorem not_isLeftover_userProject (way : Location) :
    ¬topSettings.IsLeftover userProject [] [topType] way := by
  rintro ⟨hsource, -, content, hentry, -⟩
  have hlawful : userProject.Lawful := by decide
  have hne : way ≠ [] := by
    rintro rfl
    exact absurd hsource (by simp)
  have hdirectory := hlawful.directory_of_append hne hentry
  exact absurd hdirectory (by decide)

/-- Where nothing is left over, a check after generating succeeds. -/
theorem check_after_generate_userProject :
    (execute ⟨userProject, [], noFaults⟩ ["generate"]).2.code = 0 ∧
      (execute ⟨(execute ⟨userProject, [], noFaults⟩ ["generate"]).1, [], noFaults⟩
        ["check", "--quiet"]).2.code = 0 := by
  have hgenerate : Request.parse? ["generate"] = some (.run .generate {} {}) := by decide +kernel
  have hcheck : Request.parse? ["check", "--quiet"] =
      some (.run .check {} ⟨.table, true, false, false⟩) := by
    decide +kernel
  obtain ⟨hfind, hfound, hrun⟩ := generates_userProject
  have hcode : (execute ⟨userProject, [], noFaults⟩ ["generate"]).2.code = 0 := by
    rw [execute_generate hgenerate]
    exact generate_code_eq_zero_iff.2 ⟨topProject, _, hfind, hrun⟩
  obtain ⟨project, types, hproject, hdiscover, hiff⟩ := check_after_generate
    (w := ⟨userProject, [], noFaults⟩) (by decide +kernel) rfl hgenerate hcheck hcode
  obtain rfl := Except.ok.inj (hfind.symm.trans hproject)
  obtain rfl := Except.ok.inj (hfound.symm.trans hdiscover)
  obtain ⟨hlegible, hsources, hspares⟩ := spares_topType
  exact ⟨hcode, (hiff hlegible hsources hspares noFaults).2
    ⟨List.pairwise_singleton _ _, fun _ => not_isLeftover_userProject⟩⟩

/-- The matcher of a struct that is gone is left over when the others are generated, and the check
that advises to generate fails again. -/
theorem orphan_outlasts_generate :
    (execute ⟨orphanProject, [], noFaults⟩ ["generate"]).2.code = 0 ∧
      (execute ⟨(execute ⟨orphanProject, [], noFaults⟩ ["generate"]).1, [], noFaults⟩
        ["check"]).2.code ≠ 0 := by
  have hgenerate : Request.parse? ["generate"] = some (.run .generate {} {}) := by decide +kernel
  have hcheck : Request.parse? ["check"] = some (.run .check {} {}) := by decide +kernel
  obtain ⟨hproject, hdiscover, hrun⟩ := generates_orphanProject
  obtain ⟨hlegible, hsources, hspares⟩ := spares_topType
  rw [execute_generate hgenerate, execute_check hcheck, generate_tree hproject]
  refine ⟨generate_code_eq_zero_iff.2 ⟨topProject, _, hproject, hrun⟩, fun hcode => ?_⟩
  obtain ⟨-, hnothing⟩ := (check_code_of_run (w := ⟨orphanProject, [], noFaults⟩)
    (by decide +kernel) rfl hproject hdiscover hrun hlegible hsources hspares).1 hcode
  refine hnothing (Or.inl (by simp)) ["old_matcher.rs"] ⟨by decide +kernel, by decide +kernel,
    _, rfl, fun text htext => ?_⟩
  rw [← Content.text.inj htext]
  exact ⟨⟨defaultGeneratorName, "crate::Old"⟩, by decide +kernel, rfl⟩

end StructMatch.Command
