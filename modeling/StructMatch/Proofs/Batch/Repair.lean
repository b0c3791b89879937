import StructMatch.Proofs.Batch.Check
import StructMatch.Proofs.Batch.Effect

/-!
# What a run repairs

A run brings its own matchers up to date and touches no other file.  So a check that follows it
finds everything up to date exactly if no two types share a file and no file is left over, by which
the check would find a matcher of the same generator that belongs to no type:
`findsUpToDate_run_iff`.  This takes for granted that the run leaves the files that declare the
types, and that what it writes is recognized by the scan of the check.
-/

namespace StructMatch.BatchSettings

open FileTree

variable (settings : BatchSettings) {tree tree' : FileTree} {cwd : Location}
  {types : List StructType} {w : Workspace}

/-! ## Files that are left over -/

/-- Whether a source file below the output directory that is not that of a type stands in the way of
a check: it names the generator, or it is no text. -/
def IsLeftover (tree : FileTree) (cwd : Location) (types : List StructType) (way : Location) :
    Prop :=
  way.getLast?.any isSourceName = true ∧
    settings.outputDir.location cwd ++ way ∉ types.map (settings.artifactPlace cwd) ∧
    ∃ content, tree.entryAt? (settings.outputDir.location cwd ++ way) = some (.file content) ∧
      ∀ text, content = .text text → ∃ origin, Provenance.read? text = some origin ∧
        origin.generatedBy = settings.generatorName

/-- What is left over after the matchers of the types were written was there before. -/
theorem isLeftover_of_writesWithin
    (hwrites : WritesWithin (types.map (settings.artifactPlace cwd)) tree tree') (way : Location) :
    settings.IsLeftover tree' cwd types way ↔ settings.IsLeftover tree cwd types way := by
  refine and_congr_right fun _ => and_congr_right fun hplace => exists_congr fun content => ?_
  rw [hwrites.entryAt?_file_iff hplace]

/-- The search for orphans finds none exactly if all files that it looks into are texts that do not
name the generator. -/
theorem orphansAmong_eq_nil_iff {expected : List Path} {files : List (Location × Content)} :
    settings.orphansAmong expected files = .ok [] ↔
      ∀ file ∈ files, settings.mayBeOrphan expected file.1 = true → ∃ text,
        file.2 = .text text ∧
          settings.orphanIn? (pathBelow settings.outputDir file.1) text = none := by
  induction files with
  | nil => simp [orphansAmong]
  | cons file files ih =>
      obtain ⟨way, content⟩ := file
      rw [List.forall_mem_cons, ← ih]
      cases hmay : settings.mayBeOrphan expected way with
      | false => simp [settings.orphansAmong_cons_of_neg hmay]
      | true =>
          rw [settings.orphansAmong_cons_of_pos hmay]
          cases content with
          | bytes bytes => simp
          | text text =>
              simp only [map_eq_ok_iff, List.append_eq_nil_iff, Option.toList_eq_nil_iff,
                Content.text.injEq, exists_eq_left', true_implies]
              constructor
              · rintro ⟨others, hothers, hnone, rfl⟩
                exact ⟨hnone, hothers⟩
              · rintro ⟨hnone, hothers⟩
                exact ⟨[], hothers, hnone, rfl⟩

/-- A check finds no orphans exactly if nothing is left over, or the output directory is none. -/
theorem orphans_eq_nil_iff (hlawful : tree.Lawful)
    (hnames : ∀ type ∈ types, ∀ name ∈ matcherWay type, IsFileName name) :
    settings.orphans tree cwd (types.map settings.artifactPath) = .ok [] ↔
      (tree.isDirectory cwd settings.outputDir = true →
        ∀ way, ¬settings.IsLeftover tree cwd types way) := by
  by_cases hdirectory : tree.isDirectory cwd settings.outputDir = true
  · rw [orphans, if_pos hdirectory, orphansAmong_eq_nil_iff, forall_prop_of_true hdirectory]
    have hmay {way : Location} {content : Content}
        (hentry : tree.entryAt? (settings.outputDir.location cwd ++ way) =
          some (.file content)) :
        settings.mayBeOrphan (types.map settings.artifactPath) way = true ↔
          way.getLast?.any isSourceName = true ∧
            settings.outputDir.location cwd ++ way ∉ types.map (settings.artifactPlace cwd) :=
      settings.mayBeOrphan_iff cwd hnames fun name hname =>
        hlawful.isFileName_of_entry hentry name (List.mem_append_right _ hname)
    constructor
    · rintro hfiles way ⟨hsource, hplace, content, hentry, hnamed⟩
      have hne : way ≠ [] := by
        rintro rfl
        exact absurd hsource (by simp)
      obtain ⟨text, rfl, hnone⟩ := hfiles (way, content)
        ((hlawful.mem_walk hdirectory).2 ⟨hne, hentry⟩) ((hmay hentry).2 ⟨hsource, hplace⟩)
      obtain ⟨origin, hread, hgenerator⟩ := hnamed text rfl
      have hsome : settings.orphanIn? (pathBelow settings.outputDir way) text =
          some ⟨origin.basedOn, pathBelow settings.outputDir way, .orphaned⟩ :=
        settings.orphanIn?_iff.2 ⟨origin, hread, hgenerator, rfl⟩
      rw [hnone] at hsome
      exact absurd hsome (by simp)
    · rintro hnothing ⟨way, content⟩ hfile hlooked
      have hentry := ((hlawful.mem_walk hdirectory).1 hfile).2
      obtain ⟨hsource, hplace⟩ := (hmay hentry).1 hlooked
      by_contra hnone
      refine hnothing way ⟨hsource, hplace, content, hentry, fun text htext => ?_⟩
      -- a text in which no orphan is found would do
      cases horphan : settings.orphanIn? (pathBelow settings.outputDir way) text with
      | none => exact absurd ⟨text, htext, horphan⟩ hnone
      | some report =>
          obtain ⟨origin, hread, hgenerator, -⟩ := settings.orphanIn?_eq_some horphan
          exact ⟨origin, hread, hgenerator⟩
  · rw [orphans, if_neg hdirectory]
    simp [hdirectory]

/-! ## Checks that find everything up to date -/

/-- Whether a check finds every file as it should be, and no other. -/
def FindsUpToDate (tree : FileTree) (cwd : Location) : Prop :=
  ∃ reports, (settings.check tree cwd).result = .ok reports ∧
    ∀ report ∈ reports, report.status = .upToDate

/-- Where everything is found up to date, every type has its matcher, and there are no orphans. -/
theorem holdsMatcher_of_findsUpToDate (hlawful : tree.Lawful)
    (hdiscover : (settings.discover tree cwd).result = .ok types)
    (h : settings.FindsUpToDate tree cwd) :
    (∀ type ∈ types, settings.HoldsMatcher tree cwd type) ∧
      settings.orphans tree cwd (types.map settings.artifactPath) = .ok [] := by
  obtain ⟨reports, hcheck, hstatus⟩ := h
  obtain ⟨others, current, orphans, hothers, hforetells, horphans, rfl⟩ :=
    settings.exists_parts_of_check hcheck
  obtain rfl := Except.ok.inj (hdiscover.symm.trans hothers)
  constructor
  · intro type htype
    obtain ⟨report, hreport, hforetold⟩ := exists_mem_of_forall₂ hforetells htype
    obtain ⟨artifact, hrendered, hdescribes⟩ := hforetold.rendered
    obtain ⟨text, hread, hsource⟩ :=
      (hdescribes .upToDate).1 (hstatus report (List.mem_append_left _ hreport))
    obtain ⟨names, -, hrender, -⟩ := settings.renderMatcher_eq_ok_iff.1 hrendered
    rw [hforetold.file, ← hsource] at hread
    exact ⟨names, artifact.source, hrender, hread⟩
  · have hnames := settings.isFileName_matcherWay hlawful hdiscover
    refine horphans.trans (congrArg Except.ok ?_)
    refine List.eq_nil_iff_forall_not_mem.2 fun report hreport => ?_
    have hupToDate := hstatus report (List.mem_append_right _ hreport)
    obtain ⟨-, way, text, origin, -, -, -, -, -, rfl⟩ :=
      (settings.mem_orphans_iff hlawful hnames horphans).1 hreport
    exact absurd hupToDate (by simp)

/-- Where every matcher is current and there are no orphans, everything is found up to date. -/
theorem findsUpToDate_of_isCurrent
    (hdiscover : (settings.discover tree cwd).result = .ok types)
    (hcurrent : ∀ type ∈ types, settings.IsCurrent tree cwd type)
    (horphans : settings.orphans tree cwd (types.map settings.artifactPath) = .ok []) :
    settings.FindsUpToDate tree cwd := by
  refine ⟨types.map settings.currentReport, ?_, fun report hreport => ?_⟩
  · rw [settings.check_of_isCurrent hdiscover hcurrent, horphans]
    simp [Except.map]
  · obtain ⟨type, -, rfl⟩ := List.mem_map.1 hreport
    rfl

/-! ## After a run -/

section Run

variable {paths : List Path} (hlawful : w.tree.Lawful)
  (hdiscover : (settings.discover w.tree w.cwd).result = .ok types)
  (hgenerated : (settings.generatedAll w types).2 = .ok paths)
include hlawful hdiscover hgenerated

/-- After a run the same types are discovered, if it left the files that declare them and its
matchers are recognized. -/
theorem discover_of_generatedAll (hcwd : w.tree.entryAt? w.cwd = some .directory)
    (hlegible : ∀ type ∈ types, (settings.provenanceOf type).Legible)
    (hspares : settings.SparesSources w.cwd types) :
    (settings.discover (settings.generatedAll w types).1 w.cwd).result = .ok types := by
  refine settings.discover_of_writesWithin hlawful
    (settings.lawful_generatedAll hlawful hcwd types) (settings.writesWithin_generatedAll w types)
    (fun type htype declaration hdeclaration => ?_) (fun place hplace content hentry => ?_)
    hdiscover
  · exact (settings.readable_of_sparesSources hlawful hdiscover hspares htype declaration
      hdeclaration).1
  · obtain ⟨type, htype, tree, artifact, hrendered, hwritten⟩ :=
      settings.exists_rendered_of_generatedAll hgenerated hplace
    rw [hwritten] at hentry
    obtain rfl := Entry.file.inj (Option.some.inj hentry)
    exact (settings.isSome_read?_rendered hrendered).2 (hlegible type htype)

/-- After a run the output directory is one exactly if it was one before or something was written
to it. -/
theorem isDirectory_of_generatedAll (htext : settings.outputDir.text ≠ "") :
    (settings.generatedAll w types).1.isDirectory w.cwd settings.outputDir = true ↔
      types ≠ [] ∨ w.tree.isDirectory w.cwd settings.outputDir = true := by
  have hwrites := settings.writesWithin_generatedAll w types
  rcases List.eq_nil_or_concat' types with rfl | ⟨before, last, rfl⟩
  · simp [generatedAll, generateAll]
  · obtain ⟨tree, artifact, -, -, hholds⟩ := settings.generatedAll_append hgenerated
    have hnames := settings.isFileName_matcherWay hlawful hdiscover last (by simp)
    have hdirectory := isDirectory_of_readText htext (by simp [matcherWay]) hnames
      (hholds (by simp)).readText
    simp [hdirectory]

end Run

/-- A relation holds along a list if it holds between each element and those after it. -/
theorem pairwise_of_append {α : Type} {R : α → α → Prop} {as : List α}
    (h : ∀ before a after, as = before ++ a :: after → ∀ b ∈ after, R a b) : as.Pairwise R := by
  induction as with
  | nil => exact .nil
  | cons a as ih =>
      refine List.pairwise_cons.2 ⟨h [] a as rfl, ih fun before b after hsplit => ?_⟩
      exact h (a :: before) b after (by rw [hsplit, List.cons_append])

/-- A check that follows a run finds everything up to date exactly if no two types share a file, and
nothing is left over in an output directory that was there before or was made for the matchers. -/
theorem findsUpToDate_run_iff {paths : List Path} (hlawful : w.tree.Lawful)
    (hcwd : w.tree.entryAt? w.cwd = some .directory) (htext : settings.outputDir.text ≠ "")
    (hdiscover : (settings.discover w.tree w.cwd).result = .ok types)
    (hrun : (settings.run w).2.result = .ok paths)
    (hlegible : ∀ type ∈ types, (settings.provenanceOf type).Legible)
    (hspares : settings.SparesSources w.cwd types) :
    settings.FindsUpToDate (settings.run w).1 w.cwd ↔
      types.Pairwise (fun a b => ¬SharesFile a b) ∧
      (types ≠ [] ∨ w.tree.isDirectory w.cwd settings.outputDir = true →
        ∀ way, ¬settings.IsLeftover w.tree w.cwd types way) := by
  obtain ⟨htree, hgenerated⟩ := settings.generatedAll_of_run hdiscover hrun
  have hlawful' := settings.lawful_generatedAll hlawful hcwd types
  have hnames := settings.isFileName_matcherWay hlawful hdiscover
  have hagain :=
    settings.discover_of_generatedAll hlawful hdiscover hgenerated hcwd hlegible hspares
  have hdirectory := settings.isDirectory_of_generatedAll hlawful hdiscover hgenerated htext
  have hleft := settings.isLeftover_of_writesWithin (settings.writesWithin_generatedAll w types)
  have hnothing : settings.orphans (settings.generatedAll w types).1 w.cwd
        (types.map settings.artifactPath) = .ok [] ↔
      (types ≠ [] ∨ w.tree.isDirectory w.cwd settings.outputDir = true →
        ∀ way, ¬settings.IsLeftover w.tree w.cwd types way) := by
    simp only [settings.orphans_eq_nil_iff hlawful' hnames, hdirectory, hleft]
  rw [htree]
  constructor
  · intro hfinds
    obtain ⟨hholds, horphans⟩ := settings.holdsMatcher_of_findsUpToDate hlawful' hagain hfinds
    refine ⟨pairwise_of_append fun before type after hsplit => ?_, hnothing.1 horphans⟩
    exact (settings.holdsMatcher_iff hgenerated
      (fun type => settings.isIdentifier_of_mem_discover hlawful hdiscover) hnames
      ((settings.pairwise_discover hdiscover).imp fun hlt => ne_of_lt hlt) hsplit).1
      (hholds type (by simp [hsplit]))
  · rintro ⟨hdistinct, hnone⟩
    have hnodup : (types.map (settings.artifactPlace w.cwd)).Nodup := by
      refine List.pairwise_map.2 (hdistinct.imp_of_mem fun {a b} ha hb hshares hplace => ?_)
      exact hshares ((settings.artifactPlace_eq_iff w.cwd (hnames a ha) (hnames b hb)).1 hplace)
    exact settings.findsUpToDate_of_isCurrent hagain
      (settings.isCurrent_of_generatedAll hgenerated hnodup fun type =>
        settings.readable_of_sparesSources hlawful hdiscover hspares) (hnothing.2 hnone)

end StructMatch.BatchSettings
