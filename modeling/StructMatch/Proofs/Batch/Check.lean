import StructMatch.Proofs.Batch.Stability

/-!
# What a check foretells

A check renders each type as a run would and reads the file that the matcher would replace, so the
status that it reports says what generating the matcher would do to this file, `foretells_reports`.
The orphans are those of all files below the output directory, provided that this directory can be
walked, `mem_orphans_iff`.  Both make up `check_eq_ok`.

The search for orphans asks first whether the output directory is one, and the empty path never is,
although matchers are written by it to the working directory.  What is left there is not reported,
`check_passes_over_leftovers`.
-/

namespace StructMatch

open FileTree

/-- Whether a status says what becomes of a file, by what can be read of it before and after. -/
def CheckStatus.Describes (before after : Except FileError String) : CheckStatus → Prop
  | .upToDate => ∃ text, before = .ok text ∧ after = .ok text
  | .stale => ∃ old new, before = .ok old ∧ after = .ok new ∧ old ≠ new
  | .missing => before = .error .notFound ∧ ∃ text, after = .ok text
  | .orphaned => False

/-- Of two lists that are related one by one, each element of the first has a partner. -/
theorem exists_mem_of_forall₂ {α β : Type} {R : α → β → Prop} {as : List α} {bs : List β}
    (h : List.Forall₂ R as bs) {a : α} (ha : a ∈ as) : ∃ b ∈ bs, R a b := by
  induction h with
  | nil => exact absurd ha List.not_mem_nil
  | cons hfirst _ ih =>
      rcases List.mem_cons.1 ha with rfl | ha
      · exact ⟨_, List.mem_cons_self, hfirst⟩
      · obtain ⟨b, hb, hab⟩ := ih ha
        exact ⟨b, List.mem_cons_of_mem _ hb, hab⟩

namespace BatchSettings

variable (settings : BatchSettings) {tree : FileTree} {cwd : Location} {type : StructType}
  {types : List StructType} {report : CheckReport} {reports : List CheckReport}

/-! ## Reports for types -/

/-- The status of the file of a matcher is the one that describes how the matcher replaces it. -/
theorem statusOf_describes {artifact : Artifact} {status : CheckStatus}
    (h : statusOf tree cwd artifact = .ok status) (other : CheckStatus) :
    status = other ↔
      other.Describes (tree.readText cwd artifact.path) (.ok artifact.source) := by
  unfold statusOf at h
  cases hread : tree.readText cwd artifact.path with
  | ok text =>
      rw [hread] at h
      by_cases htext : text = artifact.source
      · obtain rfl : CheckStatus.upToDate = status := by simpa [htext] using h
        cases other <;> simp [CheckStatus.Describes, htext]
      · obtain rfl : CheckStatus.stale = status := by simpa [htext] using h
        cases other <;> simp [CheckStatus.Describes, htext, Ne.symm htext]
  | error e =>
      rw [hread] at h
      cases e with
      | notFound =>
          obtain rfl : CheckStatus.missing = status := by simpa using h
          cases other <;> simp [CheckStatus.Describes]
      | _ => exact absurd h (by simp)

/-- Whether a report for a type says what would become of its file if its matcher took the place of
it, and what becomes of it whenever the matcher is generated. -/
structure Foretells (tree : FileTree) (cwd : Location) (type : StructType) (report : CheckReport) :
    Prop where
  typeName : report.typeName = type.qualifiedName
  file : report.file = settings.artifactPath type
  rendered : ∃ artifact, settings.rendered tree cwd type = .ok artifact ∧
    ∀ status, report.status = status ↔
      status.Describes (tree.readText cwd report.file) (.ok artifact.source)
  generated : ∀ faults path, (settings.generated ⟨tree, cwd, faults⟩ type).2 = .ok path →
    path = report.file ∧ ∀ status, report.status = status ↔
      status.Describes (tree.readText cwd path)
        ((settings.generated ⟨tree, cwd, faults⟩ type).1.readText cwd path)

theorem foretells_of_statusOf {artifact : Artifact} {status : CheckStatus}
    (hrendered : settings.rendered tree cwd type = .ok artifact)
    (hstatus : statusOf tree cwd artifact = .ok status) :
    settings.Foretells tree cwd type
      ⟨type.qualifiedName, settings.artifactPath type, status⟩ := by
  have hdescribes := statusOf_describes hstatus
  rw [settings.path_of_rendered hrendered] at hdescribes
  refine ⟨rfl, rfl, ⟨artifact, hrendered, hdescribes⟩, fun faults path hgenerated => ?_⟩
  obtain ⟨rfl, other, hother, hholds⟩ := settings.holds_generated hgenerated
  -- what is written is what was rendered for the check
  obtain rfl : artifact = other := Except.ok.inj (hrendered.symm.trans hother)
  rw [hholds.readText]
  exact ⟨rfl, hdescribes⟩

/-- The reports for types foretell what generating their matchers would do. -/
theorem foretells_reports (h : (settings.reportsFor tree cwd types).result = .ok reports) :
    List.Forall₂ (settings.Foretells tree cwd) types reports := by
  induction types generalizing reports with
  | nil =>
      obtain rfl : [] = reports := Except.ok.inj h
      exact .nil
  | cons type rest ih =>
      cases hrendered : settings.rendered tree cwd type with
      | error e =>
          rw [settings.reportsFor_cons_of_error hrendered] at h
          exact absurd h (by simp)
      | ok artifact =>
          rw [settings.reportsFor_cons_of_ok hrendered] at h
          cases hstatus : statusOf tree cwd artifact with
          | error e =>
              rw [hstatus] at h
              exact absurd h (by simp)
          | ok status =>
              rw [hstatus] at h
              obtain ⟨others, hothers, rfl⟩ := map_eq_ok_iff.1 h
              exact .cons (settings.foretells_of_statusOf hrendered hstatus) (ih hothers)

/-- The report for a matcher that has no file yet. -/
def missingReport (type : StructType) : CheckReport :=
  ⟨type.qualifiedName, settings.artifactPath type, .missing⟩

/-- Matchers that can be rendered and have no file are missing, whatever their texts are. -/
theorem reportsFor_of_notFound (h : ∀ type ∈ types,
    (∃ artifact, settings.rendered tree cwd type = .ok artifact) ∧
      tree.readText cwd (settings.artifactPath type) = .error .notFound) :
    (settings.reportsFor tree cwd types).result = .ok (types.map settings.missingReport) := by
  induction types with
  | nil => rfl
  | cons type rest ih =>
      obtain ⟨⟨⟨artifact, hrendered⟩, hmissing⟩, hrest⟩ := List.forall_mem_cons.1 h
      have hstatus : statusOf tree cwd artifact = .ok .missing := by
        rw [statusOf, settings.path_of_rendered hrendered, hmissing]
      rw [settings.reportsFor_cons_of_ok hrendered, hstatus]
      simp only [ih hrest]
      rfl

theorem files_of_foretells (h : List.Forall₂ (settings.Foretells tree cwd) types reports) :
    reports.map (·.file) = types.map settings.artifactPath := by
  induction h with
  | nil => rfl
  | cons hfirst _ ih => rw [List.map_cons, List.map_cons, hfirst.file, ih]

/-! ## Reports for orphans -/

/-- The search for orphans looks into the source files that are not those of the types. -/
theorem mayBeOrphan_iff (cwd : Location)
    (hnames : ∀ type ∈ types, ∀ name ∈ matcherWay type, IsFileName name) {way : Location}
    (hway : ∀ name ∈ way, IsFileName name) :
    settings.mayBeOrphan (types.map settings.artifactPath) way = true ↔
      way.getLast?.any isSourceName = true ∧
        settings.outputDir.location cwd ++ way ∉ types.map (settings.artifactPlace cwd) := by
  refine ⟨fun h => ⟨(Bool.and_eq_true_iff.1 h).1, settings.notMem_of_mayBeOrphan cwd hnames h⟩, ?_⟩
  rintro ⟨hsource, hplace⟩
  rw [mayBeOrphan, Bool.and_eq_true, Bool.not_eq_true', List.any_eq_false]
  refine ⟨hsource, fun path hpath heq => hplace ?_⟩
  obtain ⟨type, htype, rfl⟩ := List.mem_map.1 hpath
  -- paths with the same components lead to the same place
  have hlocation : settings.artifactPlace cwd type =
      (pathBelow settings.outputDir way).location cwd :=
    congrArg (Location.along cwd) (of_decide_eq_true heq)
  exact List.mem_map.2 ⟨type, htype, hlocation.trans (location_pathBelow _ cwd hway)⟩

theorem orphanIn?_iff {file : Path} {text : String} :
    settings.orphanIn? file text = some report ↔
      ∃ origin, Provenance.read? text = some origin ∧
        origin.generatedBy = settings.generatorName ∧
        report = ⟨origin.basedOn, file, .orphaned⟩ := by
  refine ⟨settings.orphanIn?_eq_some, ?_⟩
  rintro ⟨origin, hread, hname, rfl⟩
  simp [orphanIn?, hread, hname]

/-- The search for orphans leaves out none of the files that it looks into. -/
theorem mem_orphansAmong_of_mem {expected : List Path} {files : List (Location × Content)}
    (h : settings.orphansAmong expected files = .ok reports) {way : Location} {text : String}
    (hfile : (way, .text text) ∈ files) (hmay : settings.mayBeOrphan expected way = true)
    (hreport : settings.orphanIn? (pathBelow settings.outputDir way) text = some report) :
    report ∈ reports := by
  induction files generalizing reports with
  | nil => exact absurd hfile (by simp)
  | cons file files ih =>
      obtain ⟨place, content⟩ := file
      cases hfirst : settings.mayBeOrphan expected place with
      | false =>
          rw [settings.orphansAmong_cons_of_neg hfirst] at h
          rcases List.mem_cons.1 hfile with heq | hmem
          · rw [(Prod.mk.inj heq).1, hfirst] at hmay
            exact absurd hmay (by decide)
          · exact ih h hmem
      | true =>
          rw [settings.orphansAmong_cons_of_pos hfirst] at h
          cases content with
          | bytes bytes => exact absurd h (by simp)
          | text other =>
              obtain ⟨others, hothers, rfl⟩ := map_eq_ok_iff.1 h
              rcases List.mem_cons.1 hfile with heq | hmem
              · obtain ⟨rfl, hcontent⟩ := Prod.mk.inj heq
                obtain rfl := Content.text.inj hcontent
                exact List.mem_append_left _ (Option.mem_toList.2 hreport)
              · exact List.mem_append_right _ (ih hothers hmem)

/-- The search for orphans reports no file twice. -/
theorem nodup_orphansAmong {expected : List Path} {files : List (Location × Content)}
    (h : settings.orphansAmong expected files = .ok reports)
    (hnodup : (files.map (·.1)).Nodup)
    (hnames : ∀ file ∈ files, ∀ name ∈ file.1, IsFileName name) :
    (reports.map (·.file)).Nodup := by
  induction files generalizing reports with
  | nil =>
      obtain rfl : [] = reports := Except.ok.inj h
      exact List.nodup_nil
  | cons file files ih =>
      obtain ⟨way, content⟩ := file
      rw [List.map_cons, List.nodup_cons] at hnodup
      have hrest : ∀ file ∈ files, ∀ name ∈ file.1, IsFileName name :=
        fun file hfile => hnames file (List.mem_cons_of_mem _ hfile)
      cases hmay : settings.mayBeOrphan expected way with
      | false =>
          rw [settings.orphansAmong_cons_of_neg hmay] at h
          exact ih h hnodup.2 hrest
      | true =>
          rw [settings.orphansAmong_cons_of_pos hmay] at h
          cases content with
          | bytes bytes => exact absurd h (by simp)
          | text text =>
              obtain ⟨others, hothers, rfl⟩ := map_eq_ok_iff.1 h
              cases hfirst : settings.orphanIn? (pathBelow settings.outputDir way) text with
              | none => exact ih hothers hnodup.2 hrest
              | some first =>
                  obtain ⟨origin, -, -, rfl⟩ := settings.orphanIn?_iff.1 hfirst
                  refine List.nodup_cons.2 ⟨fun hmem => ?_, ih hothers hnodup.2 hrest⟩
                  -- a later report with the same path would be about the same file
                  obtain ⟨other, hother, hpath⟩ := List.mem_map.1 hmem
                  obtain ⟨place, text', hfile, -, hreport⟩ :=
                    settings.mem_orphansAmong hothers hother
                  obtain ⟨origin', -, -, rfl⟩ := settings.orphanIn?_iff.1 hreport
                  obtain rfl := (pathBelow_inj (hrest _ hfile)
                    (hnames (way, .text text) List.mem_cons_self)).1 hpath
                  exact hnodup.1 (List.mem_map.2 ⟨_, hfile, rfl⟩)

/-- The orphans of a check are the files below the output directory that fit, if the directory is
one. -/
theorem mem_orphans_iff (hlawful : tree.Lawful)
    (hnames : ∀ type ∈ types, ∀ name ∈ matcherWay type, IsFileName name)
    (h : settings.orphans tree cwd (types.map settings.artifactPath) = .ok reports) :
    report ∈ reports ↔ tree.isDirectory cwd settings.outputDir = true ∧
      settings.IsOrphan tree cwd types report := by
  constructor
  · intro hreport
    refine ⟨?_, settings.isOrphan_of_orphans hlawful (.refl _ tree) hnames h report hreport⟩
    by_contra hdirectory
    rw [orphans, if_neg hdirectory] at h
    obtain rfl : [] = reports := Except.ok.inj h
    exact absurd hreport (by simp)
  · rintro ⟨hdirectory, way, text, origin, hsource, hentry, hplace, hread, hname, rfl⟩
    rw [orphans, if_pos hdirectory] at h
    have hway : ∀ name ∈ way, IsFileName name := fun name hmem =>
      hlawful.isFileName_of_entry hentry name (List.mem_append_right _ hmem)
    have hne : way ≠ [] := by
      rintro rfl
      exact absurd hsource (by simp)
    exact settings.mem_orphansAmong_of_mem h ((hlawful.mem_walk hdirectory).2 ⟨hne, hentry⟩)
      ((settings.mayBeOrphan_iff cwd hnames hway).2 ⟨hsource, hplace⟩)
      (settings.orphanIn?_iff.2 ⟨origin, hread, hname, rfl⟩)

theorem nodup_orphans (hlawful : tree.Lawful) {expected : List Path}
    (h : settings.orphans tree cwd expected = .ok reports) : (reports.map (·.file)).Nodup := by
  unfold orphans at h
  split at h
  · next hdirectory =>
      refine settings.nodup_orphansAmong h ?_ fun file hfile name hmem => ?_
      · obtain ⟨-, location, hlocate, -⟩ := isDirectory_iff.1 hdirectory
        rw [walk, hlocate]
        exact hlawful.nodup_ways location
      · exact hlawful.isFileName_of_entry ((hlawful.mem_walk hdirectory).1 hfile).2 name
          (List.mem_append_right _ hmem)
  · obtain rfl : [] = reports := Except.ok.inj h
    exact List.nodup_nil

/-- Where a file below a directory can be read, the directory is one, unless its path is empty. -/
theorem isDirectory_of_readText {root : Path} (htext : root.text ≠ "") {way : Location}
    (hne : way ≠ []) (hway : ∀ name ∈ way, IsFileName name) {text : String}
    (h : tree.readText cwd (pathBelow root way) = .ok text) :
    tree.isDirectory cwd root = true := by
  obtain ⟨-, -, location, hlocate, -⟩ := readText_eq_ok_iff.1 h
  rw [components_pathBelow root hway, locate_append] at hlocate
  cases hroot : tree.locate cwd root.components with
  | error e =>
      rw [hroot] at hlocate
      exact absurd hlocate (by simp)
  | ok above =>
      rw [hroot] at hlocate
      obtain ⟨name, rest, rfl⟩ := List.exists_cons_of_ne_nil hne
      -- the first step down starts from a directory
      cases hstep : tree.step above (.name name) with
      | error e =>
          simp only [locate, List.map_cons, List.foldlM_cons, hstep] at hlocate
          exact absurd hlocate (by simp [bind, Except.bind])
      | ok next =>
          obtain ⟨-, hroot' | hhere | hdirectory⟩ := step_eq_ok hstep
          · exact absurd hroot' (by simp)
          · exact absurd hhere (by simp)
          · exact isDirectory_iff.2 ⟨htext, above, hroot, hdirectory⟩

/-- The orphans of a check are those whose file can be read, if the path of the output directory is
not empty. -/
theorem mem_orphans_iff_readText (hlawful : tree.Lawful)
    (hnames : ∀ type ∈ types, ∀ name ∈ matcherWay type, IsFileName name)
    (htext : settings.outputDir.text ≠ "")
    (h : settings.orphans tree cwd (types.map settings.artifactPath) = .ok reports) :
    report ∈ reports ↔ settings.IsOrphan tree cwd types report ∧
      ∃ text, tree.readText cwd report.file = .ok text := by
  rw [settings.mem_orphans_iff hlawful hnames h, and_comm]
  refine and_congr_right ?_
  rintro ⟨way, text, origin, hsource, hentry, -, -, -, rfl⟩
  have hway : ∀ name ∈ way, IsFileName name := fun name hmem =>
    hlawful.isFileName_of_entry hentry name (List.mem_append_right _ hmem)
  have hne : way ≠ [] := by
    rintro rfl
    exact absurd hsource (by simp)
  constructor
  · intro hdirectory
    exact ⟨text, hlawful.readText_pathBelow hdirectory hne hentry⟩
  · rintro ⟨other, hread⟩
    exact isDirectory_of_readText htext hne hway hread

/-! ## A check -/

/-- A check reports on the types that it discovers, and then on the orphans. -/
theorem exists_parts_of_check (h : (settings.check tree cwd).result = .ok reports) :
    ∃ types current orphans, (settings.discover tree cwd).result = .ok types ∧
      List.Forall₂ (settings.Foretells tree cwd) types current ∧
      settings.orphans tree cwd (types.map settings.artifactPath) = .ok orphans ∧
      reports = current ++ orphans := by
  cases hdiscover : (settings.discover tree cwd).result with
  | error e =>
      rw [check, Logged.result_bind, hdiscover] at h
      exact absurd h (by simp)
  | ok types =>
      rw [settings.check_of_discover hdiscover] at h
      cases hcurrent : (settings.reportsFor tree cwd types).result with
      | error e => simp [hcurrent] at h
      | ok current =>
          rw [hcurrent] at h
          obtain ⟨orphans, horphans, rfl⟩ := map_eq_ok_iff.1 h
          have hforetells := settings.foretells_reports hcurrent
          rw [settings.files_of_foretells hforetells] at horphans
          exact ⟨types, current, orphans, rfl, hforetells, horphans, rfl⟩

/-- What a check reports is what generating would do: first comes a report for each discovered type,
in the order of the full paths, with the status that foretells what becomes of its file, and then
one for each orphan that can be read.  Under the empty path no orphans are reported. -/
theorem check_eq_ok (hlawful : tree.Lawful) (h : (settings.check tree cwd).result = .ok reports) :
    ∃ types current orphans, (settings.discover tree cwd).result = .ok types ∧
      reports = current ++ orphans ∧
      types.Pairwise (fun a b => a.qualifiedName < b.qualifiedName) ∧
      List.Forall₂ (settings.Foretells tree cwd) types current ∧
      (orphans.map (·.file)).Nodup ∧
      (settings.outputDir.text ≠ "" → ∀ report, report ∈ orphans ↔
        settings.IsOrphan tree cwd types report ∧
          ∃ text, tree.readText cwd report.file = .ok text) ∧
      (settings.outputDir.text = "" → orphans = []) := by
  obtain ⟨types, current, orphans, hdiscover, hforetells, horphans, rfl⟩ :=
    settings.exists_parts_of_check h
  have hnames := settings.isFileName_matcherWay hlawful hdiscover
  refine ⟨types, current, orphans, hdiscover, rfl, settings.pairwise_discover hdiscover,
    hforetells, settings.nodup_orphans hlawful horphans, fun htext report =>
    settings.mem_orphans_iff_readText hlawful hnames htext horphans, fun htext => ?_⟩
  refine List.eq_nil_iff_forall_not_mem.2 fun report hreport => ?_
  have hdirectory := ((settings.mem_orphans_iff hlawful hnames horphans).1 hreport).1
  exact (isDirectory_iff.1 hdirectory).1 htext

/-- A crate with a matcher in its output directory whose type is gone. -/
def orphanCrate : FileTree :=
  ⟨[(["src"], .directory),
    (["src", "lib.rs"], .file (.text "pub struct User;")),
    (["out"], .directory),
    (["out", "old_matcher.rs"],
      .file (.text (Provenance.header ⟨defaultGeneratorName, "crate::Old"⟩)))]⟩

theorem hasLibrary_orphanCrate : HasLibrary orphanCrate [] ⟨"src/"⟩ "pub struct User;" :=
  hasLibrary_cons _ (by decide)

theorem isLibrary_unitStruct : IsLibrary ⟨"src/"⟩ "pub struct User;" [("User", .ok [])] := by
  decide +kernel

theorem reports_orphanCrate :
    (({ outputDir := ⟨"out"⟩ } : BatchSettings).check orphanCrate []).result =
      .ok [⟨"crate::User", ⟨"out/user_matcher.rs"⟩, .missing⟩,
        ⟨"crate::Old", ⟨"out/old_matcher.rs"⟩, .orphaned⟩] := by
  have hdiscover : (({ outputDir := ⟨"out"⟩ } : BatchSettings).discover orphanCrate []).result =
      .ok [libraryType "User"] :=
    isLibrary_unitStruct.discover hasLibrary_orphanCrate (List.pairwise_singleton _ _) _ rfl rfl
  have hfields : orphanCrate.fieldsOf [] (libraryType "User") = .ok [] :=
    isLibrary_unitStruct.fieldsOf hasLibrary_orphanCrate List.mem_cons_self
  have hrendered := (({ outputDir := ⟨"out"⟩ } : BatchSettings).rendered_or_refused
    isPlainRuntime_default (by decide)).1 (.of_fieldsOf hfields (by decide) (by simp))
  rw [check_of_discover _ hdiscover, reportsFor_of_notFound _ fun type htype => ?_]
  · decide +kernel
  · obtain rfl := List.mem_singleton.1 htype
    exact ⟨hrendered, by decide +kernel⟩

/-- A check of the crate reports that the matcher of the type is missing, and the one that is
left. -/
theorem check_orphanCrate :
    (({ outputDir := ⟨"out"⟩ } : BatchSettings).check orphanCrate []).result =
        .ok [⟨"crate::User", ⟨"out/user_matcher.rs"⟩, .missing⟩,
          ⟨"crate::Old", ⟨"out/old_matcher.rs"⟩, .orphaned⟩] ∧
      ∃ types current orphans,
        (({ outputDir := ⟨"out"⟩ } : BatchSettings).discover orphanCrate []).result = .ok types ∧
        [⟨"crate::User", ⟨"out/user_matcher.rs"⟩, .missing⟩,
          ⟨"crate::Old", ⟨"out/old_matcher.rs"⟩, .orphaned⟩] = current ++ orphans ∧
        List.Forall₂ (({ outputDir := ⟨"out"⟩ } : BatchSettings).Foretells orphanCrate [])
          types current ∧
        ∀ report, report ∈ orphans ↔
          ({ outputDir := ⟨"out"⟩ } : BatchSettings).IsOrphan orphanCrate [] types report ∧
            ∃ text, orphanCrate.readText [] report.file = .ok text := by
  obtain ⟨types, current, orphans, hdiscover, hreports, -, hforetells, -, horphans, -⟩ :=
    ({ outputDir := ⟨"out"⟩ } : BatchSettings).check_eq_ok (by decide) reports_orphanCrate
  exact ⟨reports_orphanCrate, types, current, orphans, hdiscover, hreports, hforetells,
    horphans (by decide)⟩

/-- A crate without types, and a matcher in its working directory. -/
def leftoverCrate : FileTree :=
  ⟨[(["src"], .directory), (["src", "lib.rs"], .file (.text "")),
    (["user_matcher.rs"],
      .file (.text (Provenance.header ⟨defaultGeneratorName, "crate::User"⟩)))]⟩

/-- With the empty path for the output directory a run writes to the working directory, but a check
does not report what is left there as an orphan. -/
theorem check_passes_over_leftovers :
    (({ outputDir := ⟨""⟩ } : BatchSettings).run
        ⟨crateOf "pub struct User;", [], noFaults⟩).2.result = .ok [⟨"user_matcher.rs"⟩] ∧
      (({ outputDir := ⟨""⟩ } : BatchSettings).discover leftoverCrate []).result = .ok [] ∧
      (({ outputDir := ⟨""⟩ } : BatchSettings).check leftoverCrate []).result = .ok [] ∧
      ({ outputDir := ⟨""⟩ } : BatchSettings).IsOrphan leftoverCrate [] []
        ⟨"crate::User", ⟨"user_matcher.rs"⟩, .orphaned⟩ ∧
      leftoverCrate.readText [] ⟨"user_matcher.rs"⟩ =
        .ok (Provenance.header ⟨defaultGeneratorName, "crate::User"⟩) := by
  have hdiscover : (({ outputDir := ⟨""⟩ } : BatchSettings).discover (crateOf "pub struct User;")
      []).result = .ok [libraryType "User"] :=
    isLibrary_unitStruct.discover (hasLibrary_crateOf _) (List.pairwise_singleton _ _) _ rfl rfl
  have hfields : (crateOf "pub struct User;").fieldsOf [] (libraryType "User") = .ok [] :=
    isLibrary_unitStruct.fieldsOf (hasLibrary_crateOf _) List.mem_cons_self
  have hrun := ({ outputDir := ⟨""⟩ } : BatchSettings).run_of_renderable
    (w := ⟨crateOf "pub struct User;", [], noFaults⟩) isPlainRuntime_default hdiscover (by decide)
    (.of_fieldsOf hfields (by decide) (by simp)) "" (by decide +kernel)
  refine ⟨hrun.trans (by decide), by decide +kernel, by decide +kernel, ?_, by decide +kernel⟩
  exact ⟨["user_matcher.rs"], Provenance.header ⟨defaultGeneratorName, "crate::User"⟩,
    ⟨defaultGeneratorName, "crate::User"⟩, by decide +kernel, by decide +kernel, by simp,
    by decide +kernel, rfl, by decide +kernel⟩

end BatchSettings

end StructMatch
