import StructMatch.Proofs.Batch.Recognition
import StructMatch.Proofs.Batch.Rediscovery

/-!
# Running again

Once a batch has succeeded, the file of every type holds its matcher, and from then on generating
changes nothing and checking finds everything up to date: `generatedAll_of_isCurrent` and
`reportsFor_of_isCurrent`.  What a check reports beyond that are files that were orphans all along,
`isOrphan_of_orphans`.

This hangs on what the batch discovers afterwards, for its own files may lie where it scans.  They
are passed over if their provenance can be read back, and the files that they replaced were not
among those that declared the types, `rerun_stable`.
-/

namespace StructMatch.BatchSettings

open FileTree

variable (settings : BatchSettings) {tree tree' : FileTree} {cwd : Location} {type : StructType}
  {types : List StructType}

/-! ## Matchers that are current -/

/-- Whether the file of a type holds its matcher. -/
def IsCurrent (tree : FileTree) (cwd : Location) (type : StructType) : Prop :=
  ∃ artifact, settings.rendered tree cwd type = .ok artifact ∧
    tree.Holds cwd (settings.artifactDir type) (settings.artifactPath type) artifact.source

theorem IsCurrent.congr (h : settings.IsCurrent tree cwd type)
    (hsame : ∀ place, tree'.entryAt? place = tree.entryAt? place) :
    settings.IsCurrent tree' cwd type := by
  obtain ⟨artifact, hrendered, hholds⟩ := h
  have hwrites : WritesWithin [] tree tree' :=
    ⟨fun place _ => Or.inl (hsame place), fun place hplace => (hsame place).trans hplace⟩
  refine ⟨artifact, ?_, hholds.of_writesWithin hwrites (by simp)⟩
  rw [settings.rendered_congr fun _ _ => readText_congr hsame, hrendered]

/-- Generating a matcher that is current changes nothing, and fails only if the device refuses. -/
theorem generated_of_isCurrent {w : Workspace} (h : settings.IsCurrent w.tree w.cwd type) :
    (∀ place, (settings.generated w type).1.entryAt? place = w.tree.entryAt? place) ∧
      ((settings.generated w type).2 = .ok (settings.artifactPath type) ∨
        ∃ path cause, (settings.generated w type).2 = .error (.file path cause)) ∧
      (w.faults = noFaults →
        (settings.generated w type).2 = .ok (settings.artifactPath type)) := by
  obtain ⟨artifact, hrendered, hholds⟩ := h
  obtain ⟨hsame, hok⟩ := hholds.replaceFile (w.faults 0)
  rw [settings.generated_of_ok hrendered]
  refine ⟨hsame, ?_, fun hfaults => ?_⟩
  · cases (w.tree.replaceFile (w.faults 0) w.cwd (settings.artifactDir type)
      (settings.artifactPath type) artifact.source).2 with
    | error failure => exact Or.inr ⟨failure.path, failure.error, rfl⟩
    | ok => exact Or.inl rfl
  · rw [show w.faults 0 = noRefusals from congrFun hfaults 0, hok]

/-- Generating matchers that are current changes nothing, and fails only if the device refuses. -/
theorem generatedAll_of_isCurrent {w : Workspace}
    (h : ∀ type ∈ types, settings.IsCurrent w.tree w.cwd type) :
    (∀ place, (settings.generatedAll w types).1.entryAt? place = w.tree.entryAt? place) ∧
      ((settings.generatedAll w types).2 = .ok (types.map settings.artifactPath) ∨
        ∃ name path cause,
          (settings.generatedAll w types).2 = .error (.generating name (.file path cause))) ∧
      (w.faults = noFaults →
        (settings.generatedAll w types).2 = .ok (types.map settings.artifactPath)) := by
  induction types generalizing w with
  | nil => exact ⟨fun _ => rfl, Or.inl rfl, fun _ => rfl⟩
  | cons type rest ih =>
      obtain ⟨hsame, hresult, hok⟩ :=
        settings.generated_of_isCurrent (h type List.mem_cons_self)
      obtain ⟨hrestSame, hrestResult, hrestOk⟩ := ih
        (w := w.after 1 (settings.generated w type).1)
        fun other hother => (h other (List.mem_cons_of_mem _ hother)).congr settings hsame
      -- what comes after is current in a tree with the same entries
      have hsameAll : ∀ place,
          (settings.generatedAll (w.after 1 (settings.generated w type).1)
            rest).1.entryAt? place = w.tree.entryAt? place :=
        fun place => (hrestSame place).trans (hsame place)
      rcases hresult with hpath | ⟨path, cause, herror⟩
      · rw [settings.generatedAll_cons_of_ok hpath]
        refine ⟨hsameAll, ?_, fun hfaults => ?_⟩
        · rcases hrestResult with hrest | ⟨name, path, cause, hrest⟩
          · exact Or.inl (by rw [hrest]; rfl)
          · exact Or.inr ⟨name, path, cause, by rw [hrest]; rfl⟩
        · rw [hrestOk (Workspace.faults_after_of_noFaults _ _ hfaults)]
          rfl
      · rw [settings.generatedAll_cons_of_error herror]
        refine ⟨hsame, Or.inr ⟨_, path, cause, rfl⟩, fun hfaults => ?_⟩
        rw [hok hfaults] at herror
        exact absurd herror (by simp)

/-! ## Checking -/

/-- Reports end at a type that cannot be rendered. -/
theorem reportsFor_cons_of_error {e : GenerateError}
    (h : settings.rendered tree cwd type = .error e) (rest : List StructType) :
    (settings.reportsFor tree cwd (type :: rest)).result =
      .error (.rendering type.qualifiedName e) := by
  rw [rendered] at h
  rw [reportsFor, Logged.result_bind, h]
  rfl

/-- For a type that is rendered the report is about its own file. -/
theorem reportsFor_cons_of_ok {artifact : Artifact}
    (h : settings.rendered tree cwd type = .ok artifact) (rest : List StructType) :
    (settings.reportsFor tree cwd (type :: rest)).result =
      match statusOf tree cwd artifact with
      | .error e => .error (.unreadable (settings.artifactPath type) e)
      | .ok status => (settings.reportsFor tree cwd rest).result.map
          (⟨type.qualifiedName, settings.artifactPath type, status⟩ :: ·) := by
  have hpath := settings.path_of_rendered h
  rw [rendered] at h
  rw [reportsFor, Logged.result_bind, h]
  cases hstatus : statusOf tree cwd artifact <;>
    simp only [hstatus, hpath, Logged.result_bind, Logged.result_pure]

/-- A check of discovered types reports on them, and then on the orphans. -/
theorem check_of_discover (h : (settings.discover tree cwd).result = .ok types) :
    (settings.check tree cwd).result =
      match (settings.reportsFor tree cwd types).result with
      | .error e => .error e
      | .ok reports => (settings.orphans tree cwd (reports.map (·.file))).map (reports ++ ·) := by
  rw [check, Logged.result_bind, h]
  simp only [Logged.result_bind]
  cases (settings.reportsFor tree cwd types).result <;> rfl

/-- The report for a matcher that is current. -/
def currentReport (type : StructType) : CheckReport :=
  ⟨type.qualifiedName, settings.artifactPath type, .upToDate⟩

theorem reportsFor_of_isCurrent (h : ∀ type ∈ types, settings.IsCurrent tree cwd type) :
    (settings.reportsFor tree cwd types).result = .ok (types.map settings.currentReport) := by
  induction types with
  | nil => rfl
  | cons type rest ih =>
      obtain ⟨artifact, hrendered, hholds⟩ := h type List.mem_cons_self
      have hstatus : statusOf tree cwd artifact = .ok .upToDate := by
        rw [statusOf, settings.path_of_rendered hrendered, hholds.readText]
        simp
      rw [settings.reportsFor_cons_of_ok hrendered, hstatus,
        ih fun other hother => h other (List.mem_cons_of_mem _ hother)]
      rfl

/-! ## Orphans -/

/-- Whether a report is about an orphan: a source file below the output directory that is not the
file of a type, and that names the generator. -/
def IsOrphan (tree : FileTree) (cwd : Location) (types : List StructType) (report : CheckReport) :
    Prop :=
  ∃ way text origin, way.getLast?.any isSourceName = true ∧
    tree.entryAt? (settings.outputDir.location cwd ++ way) = some (.file (.text text)) ∧
    settings.outputDir.location cwd ++ way ∉ types.map (settings.artifactPlace cwd) ∧
    Provenance.read? text = some origin ∧ origin.generatedBy = settings.generatorName ∧
    report = ⟨origin.basedOn, pathBelow settings.outputDir way, .orphaned⟩

/-- Whether the search for orphans looks into a file. -/
def mayBeOrphan (expected : List Path) (way : Location) : Bool :=
  way.getLast?.any isSourceName &&
    !expected.any fun path => path.components = (pathBelow settings.outputDir way).components

theorem orphansAmong_cons_of_neg {expected : List Path} {way : Location} {content : Content}
    {files : List (Location × Content)} (h : settings.mayBeOrphan expected way = false) :
    settings.orphansAmong expected ((way, content) :: files) =
      settings.orphansAmong expected files := by
  rw [orphansAmong.eq_def]
  refine if_pos ?_
  rw [mayBeOrphan] at h
  cases hsource : way.getLast?.any isSourceName with
  | false => rfl
  | true =>
      rw [hsource] at h
      simpa using h

theorem orphansAmong_cons_of_pos {expected : List Path} {way : Location} {content : Content}
    {files : List (Location × Content)} (h : settings.mayBeOrphan expected way = true) :
    settings.orphansAmong expected ((way, content) :: files) =
      match content with
      | .bytes _ => .error (.unreadable (pathBelow settings.outputDir way) .invalidText)
      | .text text => (settings.orphansAmong expected files).map
          ((settings.orphanIn? (pathBelow settings.outputDir way) text).toList ++ ·) := by
  rw [orphansAmong.eq_def]
  refine if_neg ?_
  rw [mayBeOrphan, Bool.and_eq_true] at h
  rw [h.1]
  simpa using h.2

/-- The search for orphans passes over all other files. -/
theorem orphansAmong_filter (expected : List Path) (files : List (Location × Content)) :
    settings.orphansAmong expected (files.filter fun file => settings.mayBeOrphan expected file.1) =
      settings.orphansAmong expected files := by
  induction files with
  | nil => rfl
  | cons file files ih =>
      obtain ⟨way, content⟩ := file
      cases h : settings.mayBeOrphan expected way with
      | false =>
          rw [List.filter_cons_of_neg (by simpa using h),
            settings.orphansAmong_cons_of_neg h, ih]
      | true =>
          rw [List.filter_cons_of_pos (by simpa using h),
            settings.orphansAmong_cons_of_pos h, settings.orphansAmong_cons_of_pos h, ih]

/-- Every report of the search is about one of the files. -/
theorem mem_orphansAmong {expected : List Path} {files : List (Location × Content)}
    {reports : List CheckReport} (h : settings.orphansAmong expected files = .ok reports)
    {report : CheckReport} (hreport : report ∈ reports) :
    ∃ way text, (way, .text text) ∈ files ∧ settings.mayBeOrphan expected way = true ∧
      settings.orphanIn? (pathBelow settings.outputDir way) text = some report := by
  induction files generalizing reports with
  | nil =>
      obtain rfl : [] = reports := Except.ok.inj h
      exact absurd hreport (by simp)
  | cons file files ih =>
      have hlater : ∀ {others : List CheckReport},
          settings.orphansAmong expected files = .ok others → report ∈ others →
          ∃ way text, (way, .text text) ∈ file :: files ∧
            settings.mayBeOrphan expected way = true ∧
            settings.orphanIn? (pathBelow settings.outputDir way) text = some report := by
        intro others hothers hmem
        obtain ⟨way, text, hfile, hrest⟩ := ih hothers hmem
        exact ⟨way, text, List.mem_cons_of_mem _ hfile, hrest⟩
      obtain ⟨way, content⟩ := file
      cases hmay : settings.mayBeOrphan expected way with
      | false =>
          rw [settings.orphansAmong_cons_of_neg hmay] at h
          exact hlater h hreport
      | true =>
          rw [settings.orphansAmong_cons_of_pos hmay] at h
          cases content with
          | bytes bytes => exact absurd h (by simp)
          | text text =>
              obtain ⟨others, hothers, rfl⟩ := map_eq_ok_iff.1 h
              rcases List.mem_append.1 hreport with hfirst | hmem
              · exact ⟨way, text, List.mem_cons_self, hmay, Option.mem_toList.1 hfirst⟩
              · exact hlater hothers hmem

theorem orphanIn?_eq_some {file : Path} {text : String} {report : CheckReport}
    (h : settings.orphanIn? file text = some report) :
    ∃ origin, Provenance.read? text = some origin ∧
      origin.generatedBy = settings.generatorName ∧
      report = ⟨origin.basedOn, file, .orphaned⟩ := by
  unfold orphanIn? at h
  split at h
  · next origin hread =>
      split at h
      · next hname => exact ⟨origin, hread, hname, (Option.some.inj h).symm⟩
      · exact absurd h (by simp)
  · exact absurd h (by simp)

/-- Files that may be orphans are not those of the types. -/
theorem notMem_of_mayBeOrphan (cwd : Location)
    (hnames : ∀ type ∈ types, ∀ name ∈ matcherWay type, IsFileName name) {way : Location}
    (h : settings.mayBeOrphan (types.map settings.artifactPath) way = true) :
    settings.outputDir.location cwd ++ way ∉ types.map (settings.artifactPlace cwd) := by
  intro hmem
  obtain ⟨type, htype, hplace⟩ := List.mem_map.1 hmem
  rw [settings.artifactPlace_eq cwd (hnames type htype)] at hplace
  obtain rfl : matcherWay type = way := List.append_cancel_left hplace
  rw [mayBeOrphan, Bool.and_eq_true, Bool.not_eq_true', List.any_eq_false] at h
  exact h.2 _ (List.mem_map.2 ⟨type, htype, rfl⟩) (by simp [artifactPath])

/-- What a check reports as orphaned after the files of the types were written was so before. -/
theorem isOrphan_of_orphans (hlawful' : tree'.Lawful)
    (hwrites : WritesWithin (types.map (settings.artifactPlace cwd)) tree tree')
    (hnames : ∀ type ∈ types, ∀ name ∈ matcherWay type, IsFileName name)
    {reports : List CheckReport}
    (h : settings.orphans tree' cwd (types.map settings.artifactPath) = .ok reports) :
    ∀ report ∈ reports, settings.IsOrphan tree cwd types report := by
  intro report hreport
  unfold orphans at h
  split at h
  · next hdirectory =>
      obtain ⟨way, text, hfile, hmay, horphan⟩ := settings.mem_orphansAmong h hreport
      obtain ⟨origin, hread, hname, rfl⟩ := settings.orphanIn?_eq_some horphan
      have hplace := settings.notMem_of_mayBeOrphan cwd hnames hmay
      have hentry := ((hlawful'.mem_walk hdirectory).1 hfile).2
      -- the file is none of those that were written, so it was there before
      refine ⟨way, text, origin, (Bool.and_eq_true_iff.1 hmay).1, ?_, hplace, hread, hname, rfl⟩
      exact (hwrites.entryAt?_file_iff hplace).1 hentry
  · obtain rfl : [] = reports := Except.ok.inj h
    exact absurd hreport (by simp)

/-- Where the output directory was there before, the orphans are the same and in the same order. -/
theorem orphans_of_writesWithin (hlawful : tree.Lawful) (hlawful' : tree'.Lawful)
    (hwrites : WritesWithin (types.map (settings.artifactPlace cwd)) tree tree')
    (hnames : ∀ type ∈ types, ∀ name ∈ matcherWay type, IsFileName name)
    (hdirectory : tree.isDirectory cwd settings.outputDir = true) :
    settings.orphans tree' cwd (types.map settings.artifactPath) =
      settings.orphans tree cwd (types.map settings.artifactPath) := by
  obtain ⟨-, location, hlocate, -⟩ := isDirectory_iff.1 hdirectory
  obtain rfl : location = settings.outputDir.location cwd := locate_eq_along hlocate
  rw [orphans, orphans, if_pos hdirectory, if_pos (hwrites.isDirectory hdirectory), walk, walk,
    hlocate, hwrites.locate hlocate]
  simp only
  rw [← orphansAmong_filter, ← settings.orphansAmong_filter _ (tree.filesBelow _)]
  congr 1
  refine filter_filesBelow_congr hlawful hlawful'
    (settings.mayBeOrphan (types.map settings.artifactPath)) fun way content hmay => ?_
  exact hwrites.entryAt?_file_iff (settings.notMem_of_mayBeOrphan cwd hnames hmay)

/-! ## The matchers of a batch stay current -/

/-- What makes a batch repeatable: no matcher gets in the way of another one, of the sources, or of
the next scan. -/
structure IsRepeatable (tree : FileTree) (cwd : Location) (types : List StructType) : Prop where
  /-- The matchers have different paths. -/
  distinct : (types.map settings.artifactPath).Nodup
  /-- The provenance of each matcher can be read back. -/
  recognized : ∀ type ∈ types, ∀ artifact, settings.rendered tree cwd type = .ok artifact →
    (Provenance.read? artifact.source).isSome = true
  /-- No matcher has the path of a source file without provenance that a scan comes upon. -/
  undisturbed : ∀ type ∈ types, ∀ root ∈ settings.effectiveScanPaths, ∀ way content,
    (way, content) ∈ tree.walk cwd root → isScanned way = true → content.isGenerated = false →
    settings.artifactPlace cwd type ≠ root.location cwd ++ way

theorem nodup_artifactPlace (cwd : Location)
    (hnames : ∀ type ∈ types, ∀ name ∈ matcherWay type, IsFileName name)
    (h : (types.map settings.artifactPath).Nodup) :
    (types.map (settings.artifactPlace cwd)).Nodup := by
  rw [List.nodup_map_iff_inj_on (List.Nodup.of_map _ h)]
  intro a ha b hb hplace
  rw [settings.artifactPlace_eq cwd (hnames a ha), settings.artifactPlace_eq cwd (hnames b hb)]
    at hplace
  refine List.inj_on_of_nodup_map h ha hb ?_
  rw [artifactPath, artifactPath, List.append_cancel_left hplace]

/-- After a batch that succeeds every matcher is current, when no two have the same place and none
has the place of a file that declares a type. -/
theorem isCurrent_of_generatedAll {w : Workspace} {paths : List Path}
    (h : (settings.generatedAll w types).2 = .ok paths)
    (hnodup : (types.map (settings.artifactPlace w.cwd)).Nodup)
    (hread : ∀ type ∈ types, ∀ declaration, type.declaration? = some declaration →
      declaration.file.location w.cwd ∉ types.map (settings.artifactPlace w.cwd) ∧
        ∃ text, w.tree.readText w.cwd declaration.file = .ok text) :
    ∀ type ∈ types, settings.IsCurrent (settings.generatedAll w types).1 w.cwd type := by
  intro type htype
  have hwrites := settings.writesWithin_generatedAll w types
  obtain ⟨before, after, rfl⟩ := List.append_of_mem htype
  obtain ⟨tree, artifact, hbefore, hrendered, hholds⟩ := settings.generatedAll_append h
  have hplace : settings.artifactPlace w.cwd type ∉ after.map (settings.artifactPlace w.cwd) := by
    rw [List.map_append, List.map_cons] at hnodup
    exact (List.nodup_cons.1 hnodup.of_append_right).1
  -- it was rendered from a tree in which the sources were as they are before and after the batch
  refine ⟨artifact, ?_, hholds hplace⟩
  have hsub : before.map (settings.artifactPlace w.cwd) ⊆
      (before ++ type :: after).map (settings.artifactPlace w.cwd) := by
    rw [List.map_append]
    exact List.subset_append_left _ _
  rw [settings.rendered_of_writesWithin hwrites (hread type htype), ← hrendered,
    settings.rendered_of_writesWithin (hbefore.mono hsub) (hread type htype)]

/-- A check of matchers that are current finds them so, and then the orphans. -/
theorem check_of_isCurrent (hdiscover : (settings.discover tree cwd).result = .ok types)
    (h : ∀ type ∈ types, settings.IsCurrent tree cwd type) :
    (settings.check tree cwd).result =
      (settings.orphans tree cwd (types.map settings.artifactPath)).map
        (types.map settings.currentReport ++ ·) := by
  have hpaths : (types.map settings.currentReport).map (·.file) =
      types.map settings.artifactPath := by
    rw [List.map_map]
    rfl
  rw [settings.check_of_discover hdiscover, settings.reportsFor_of_isCurrent h]
  simp only [hpaths]

namespace IsRepeatable

variable {settings : BatchSettings}

/-- No matcher is written to a file that declares a type. -/
theorem readText (h : settings.IsRepeatable tree cwd types) (hlawful : tree.Lawful)
    (hdiscover : (settings.discover tree cwd).result = .ok types) :
    ∀ type ∈ types, ∀ declaration, type.declaration? = some declaration →
      declaration.file.location cwd ∉ types.map (settings.artifactPlace cwd) ∧
        ∃ text, tree.readText cwd declaration.file = .ok text := by
  intro type htype declaration hdeclaration
  obtain ⟨root, hroot, way, text, items, hdeclares⟩ :=
    settings.declares_of_mem_discover hlawful hdiscover htype
  obtain ⟨modules, hmodules⟩ := hdeclares.declaration
  obtain rfl := Option.some.inj (hdeclaration.symm.trans hmodules)
  refine ⟨?_, text, hdeclares.readText hlawful⟩
  rw [location_pathBelow root cwd (hdeclares.isFileName_way hlawful)]
  intro hmem
  obtain ⟨other, hother, hplace⟩ := List.mem_map.1 hmem
  have hwalk : (way, .text text) ∈ tree.walk cwd root :=
    (hlawful.mem_walk hdeclares.isDirectory).2
      ⟨ne_nil_of_isScanned hdeclares.isScanned, hdeclares.entry⟩
  have hunmarked : (Content.text text).isGenerated = false := by
    rw [Content.isGenerated, hdeclares.unmarked]
    rfl
  exact h.undisturbed other hother root hroot way _ hwalk hdeclares.isScanned hunmarked hplace

/-- After a batch that succeeds, the same types are discovered. -/
theorem discover {w : Workspace} (h : settings.IsRepeatable w.tree w.cwd types)
    (hlawful : w.tree.Lawful) (hcwd : w.tree.entryAt? w.cwd = some .directory)
    (hdiscover : (settings.discover w.tree w.cwd).result = .ok types)
    (hsame : ∀ type ∈ types, settings.rendered (settings.generatedAll w types).1 w.cwd type =
      settings.rendered w.tree w.cwd type)
    (hcurrent : ∀ type ∈ types, settings.IsCurrent (settings.generatedAll w types).1 w.cwd type) :
    (settings.discover (settings.generatedAll w types).1 w.cwd).result = .ok types := by
  have hlawful' := settings.lawful_generatedAll hlawful hcwd types
  refine settings.discover_of_writesWithin hlawful hlawful'
    (settings.writesWithin_generatedAll w types) ?_ ?_ hdiscover
  · -- the sources are still there
    intro type htype declaration hdeclaration
    exact (h.readText hlawful hdiscover type htype declaration hdeclaration).1
  · -- and where the matchers were written, there are matchers now
    intro place hplace content hentry
    obtain ⟨type, htype, rfl⟩ := List.mem_map.1 hplace
    obtain ⟨artifact, hrendered, hholds⟩ := hcurrent type htype
    have htext := hholds.entry
    rw [artifactPlace] at hentry
    rw [hentry] at htext
    obtain rfl := Entry.file.inj (Option.some.inj htext)
    exact h.recognized type htype artifact ((hsame type htype).symm.trans hrendered)

end IsRepeatable

/-- Running again after a success is stable: the same types are discovered, a second run changes
nothing and fails only if the device refuses, and a check finds every matcher up to date and no
orphan that was none before. -/
theorem rerun_stable {w : Workspace} {paths : List Path} (hlawful : w.tree.Lawful)
    (hcwd : w.tree.entryAt? w.cwd = some .directory)
    (hdiscover : (settings.discover w.tree w.cwd).result = .ok types)
    (hrun : (settings.run w).2.result = .ok paths)
    (hrepeat : settings.IsRepeatable w.tree w.cwd types) :
    (settings.discover (settings.run w).1 w.cwd).result = .ok types ∧
    (∀ faults,
      (∀ place, (settings.run ⟨(settings.run w).1, w.cwd, faults⟩).1.entryAt? place =
        (settings.run w).1.entryAt? place) ∧
      ((settings.run ⟨(settings.run w).1, w.cwd, faults⟩).2.result = .ok paths ∨
        ∃ name path cause, (settings.run ⟨(settings.run w).1, w.cwd, faults⟩).2.result =
          .error (.generating name (.file path cause)))) ∧
    (settings.run ⟨(settings.run w).1, w.cwd, noFaults⟩).2.result = .ok paths ∧
    types.Pairwise (fun a b => a.qualifiedName < b.qualifiedName) ∧
    ∀ reports, (settings.check (settings.run w).1 w.cwd).result = .ok reports →
      ∃ orphans, reports = types.map settings.currentReport ++ orphans ∧
        (∀ report ∈ orphans, settings.IsOrphan w.tree w.cwd types report) ∧
        (w.tree.isDirectory w.cwd settings.outputDir = true →
          settings.orphans w.tree w.cwd paths = .ok orphans) := by
  obtain ⟨htree, hgenerated⟩ := settings.generatedAll_of_run hdiscover hrun
  have hpaths := settings.paths_of_generatedAll hgenerated
  have hlawful' := settings.lawful_generatedAll hlawful hcwd types
  have hwrites := settings.writesWithin_generatedAll w types
  have hnames := settings.isFileName_matcherWay hlawful hdiscover
  -- the sources are as they were, so rendering gives the same again
  have hread := hrepeat.readText hlawful hdiscover
  have hcurrent := settings.isCurrent_of_generatedAll hgenerated
    (settings.nodup_artifactPlace w.cwd hnames hrepeat.distinct) hread
  have hagain := hrepeat.discover hlawful hcwd hdiscover
    (fun type htype => settings.rendered_of_writesWithin hwrites (hread type htype)) hcurrent
  have hsecond : ∀ faults,
      ((settings.run ⟨(settings.generatedAll w types).1, w.cwd, faults⟩).1,
        (settings.run ⟨(settings.generatedAll w types).1, w.cwd, faults⟩).2.result) =
      settings.generatedAll ⟨(settings.generatedAll w types).1, w.cwd, faults⟩ types :=
    fun faults => settings.run_of_discover hagain
  rw [htree]
  refine ⟨hagain, fun faults => ?_, ?_, settings.pairwise_discover hdiscover, ?_⟩
  · obtain ⟨hsame, hresult, -⟩ := settings.generatedAll_of_isCurrent
      (w := ⟨(settings.generatedAll w types).1, w.cwd, faults⟩) hcurrent
    rw [← hsecond, ← hpaths] at hresult
    rw [← hsecond] at hsame
    exact ⟨hsame, hresult⟩
  · obtain ⟨-, -, hok⟩ := settings.generatedAll_of_isCurrent
      (w := ⟨(settings.generatedAll w types).1, w.cwd, noFaults⟩) hcurrent
    rw [← hsecond, ← hpaths] at hok
    exact hok rfl
  · intro reports hreports
    rw [settings.check_of_isCurrent hagain hcurrent] at hreports
    obtain ⟨orphans, horphans, rfl⟩ := map_eq_ok_iff.1 hreports
    refine ⟨orphans, rfl, settings.isOrphan_of_orphans hlawful' hwrites hnames horphans, ?_⟩
    intro hdirectory
    rw [hpaths, ← settings.orphans_of_writesWithin hlawful hlawful' hwrites hnames hdirectory,
      horphans]

/-- The crate of one type can be run again. -/
theorem rerun_userCrate :
    (({} : BatchSettings).discover
        (({} : BatchSettings).run ⟨userCrate, [], noFaults⟩).1 []).result = .ok [userType] ∧
      (({} : BatchSettings).run
        ⟨(({} : BatchSettings).run ⟨userCrate, [], noFaults⟩).1, [], noFaults⟩).2.result =
          .ok [⟨"src/generated/user_matcher.rs"⟩] := by
  have hrepeat : ({} : BatchSettings).IsRepeatable userCrate [] [userType] := by
    refine ⟨by decide +kernel, ?_, ?_⟩
    · intro type htype artifact hrendered
      obtain rfl := List.mem_singleton.1 htype
      rw [({} : BatchSettings).isSome_read?_rendered hrendered,
        Provenance.legible_iff (by decide +kernel) (by decide +kernel)]
      decide +kernel
    · intro type htype root hroot way content hfile _ _
      obtain rfl := List.mem_singleton.1 htype
      obtain rfl : root = ⟨"src/"⟩ := List.mem_singleton.1 hroot
      rw [hasLibrary_userCrate.walk, List.mem_singleton] at hfile
      rw [(Prod.mk.inj hfile).1]
      decide +kernel
  have h := ({} : BatchSettings).rerun_stable (w := ⟨userCrate, [], noFaults⟩)
    userSample.lawful rfl userSample.discovers run_userCrate hrepeat
  exact ⟨h.1, h.2.2.1⟩

end StructMatch.BatchSettings
