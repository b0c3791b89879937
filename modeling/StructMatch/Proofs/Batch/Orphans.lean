import StructMatch.Proofs.Batch.Check
import StructMatch.Proofs.Batch.Exactness

/-!
# Orphans whose type is not gone

A file is reported as orphaned when it is not that of a discovered type, whatever type it is based
on.  So the type of an orphan may well be declared: when the packages leave it out, or when its
matcher belongs in another file, `orphan_isDeclared_iff`.  The types of all orphans are gone exactly
if every matcher for a declared type is in the place of the matcher of a discovered one,
`orphans_gone_iff`, and a selection of packages is enough for this to fail,
`check_orphans_declaredType`.
-/

namespace StructMatch.BatchSettings

open FileTree

variable (settings : BatchSettings) {tree : FileTree} {cwd : Location} {types : List StructType}
  {reports : List CheckReport} {report : CheckReport} {name : String}

/-! ## Types that are declared -/

/-- Whether a file below one of the scanned directories declares a type, in whatever package. -/
def DeclaresType (tree : FileTree) (cwd : Location) (type : StructType) : Prop :=
  ∃ root ∈ settings.effectiveScanPaths, ∃ way text,
    tree.entryAt? (root.location cwd ++ way) = some (.file (.text text)) ∧
      FileDeclares root .root way text type

/-- Whether a type of the given full path is declared. -/
def IsDeclared (tree : FileTree) (cwd : Location) (name : String) : Prop :=
  ∃ type, settings.DeclaresType tree cwd type ∧ type.qualifiedName = name

/-- A discovery finds the full paths of those declared types that lie in one of the packages. -/
theorem exists_mem_discover_iff (hlawful : tree.Lawful)
    (hdiscover : (settings.discover tree cwd).result = .ok types) :
    (∃ type ∈ types, type.qualifiedName = name) ↔
      ∃ type, settings.DeclaresType tree cwd type ∧
        LiesInPackages settings.effectivePackages type ∧ type.qualifiedName = name := by
  have hroots := (settings.discover_eq_ok_iff.1 hdiscover).1
  obtain ⟨others, hothers, hrepresents⟩ := represents_discover settings hroots
  obtain rfl := Except.ok.inj (hdiscover.symm.trans hothers)
  rw [hrepresents.names]
  constructor
  · rintro ⟨type, ⟨root, hroot, scan, hscan, htype⟩, hname⟩
    obtain ⟨_, hscan', hscanned⟩ := represents_scanDirectory hlawful (hroots root hroot) "crate"
      settings.effectivePackages
    obtain rfl := Option.some.inj (hscan.symm.trans hscan')
    obtain ⟨hpackages, way, text, hentry, hdeclares⟩ := hscanned.candidates type htype
    exact ⟨type, ⟨root, hroot, way, text, hentry, hdeclares⟩, hpackages, hname⟩
  · rintro ⟨type, ⟨root, hroot, way, text, hentry, hdeclares⟩, hpackages, hname⟩
    -- the scan of the directory reports this full path, though maybe of another declaration
    obtain ⟨scan, hscan, hscanned⟩ := represents_scanDirectory hlawful (hroots root hroot) "crate"
      settings.effectivePackages
    obtain ⟨other, hother, hsame⟩ :=
      (hscanned.names name).2 ⟨type, ⟨hpackages, way, text, hentry, hdeclares⟩, hname⟩
    exact ⟨other, ⟨root, hroot, scan, hscan, hother⟩, hsame⟩

/-- Where the whole crate is selected, all declared types are discovered. -/
theorem isDeclared_iff_of_wholeCrate (hlawful : tree.Lawful)
    (hdiscover : (settings.discover tree cwd).result = .ok types)
    (hpackages : "crate" ∈ settings.effectivePackages) :
    settings.IsDeclared tree cwd name ↔ ∃ type ∈ types, type.qualifiedName = name := by
  rw [settings.exists_mem_discover_iff hlawful hdiscover]
  refine exists_congr fun type => and_congr_right fun _ => (and_iff_right ?_).symm
  exact ⟨"crate", hpackages, by decide, List.nil_prefix⟩

/-! ## Orphans -/

/-- No type is reported as orphaned. -/
theorem status_ne_orphaned {current : List CheckReport}
    (h : List.Forall₂ (settings.Foretells tree cwd) types current) (hreport : report ∈ current) :
    report.status ≠ .orphaned := by
  obtain ⟨type, -, hforetells⟩ := exists_mem_of_forall₂ h.flip hreport
  obtain ⟨artifact, -, hdescribes⟩ := hforetells.rendered
  exact (hdescribes .orphaned).1

/-- Whether a source file below the output directory begins with the header of a matcher that this
generator made for the type of the given full path. -/
def HoldsHeader (tree : FileTree) (cwd : Location) (way : Location) (name : String) : Prop :=
  way.getLast?.any isSourceName = true ∧ ∃ text,
    tree.entryAt? (settings.outputDir.location cwd ++ way) = some (.file (.text text)) ∧
      Provenance.read? text = some ⟨settings.generatorName, name⟩

theorem isOrphan_iff : settings.IsOrphan tree cwd types report ↔
    ∃ way name, settings.HoldsHeader tree cwd way name ∧
      settings.outputDir.location cwd ++ way ∉ types.map (settings.artifactPlace cwd) ∧
      report = ⟨name, pathBelow settings.outputDir way, .orphaned⟩ := by
  constructor
  · rintro ⟨way, text, ⟨generator, name⟩, hsource, hentry, hplace, hread, rfl, rfl⟩
    exact ⟨way, name, ⟨hsource, text, hentry, hread⟩, hplace, rfl⟩
  · rintro ⟨way, name, ⟨hsource, text, hentry, hread⟩, hplace, rfl⟩
    exact ⟨way, text, ⟨settings.generatorName, name⟩, hsource, hentry, hplace, hread, rfl, rfl⟩

/-- The files that a check reports as orphaned are the orphans, if there is an output directory. -/
theorem mem_orphaned_iff (hlawful : tree.Lawful)
    (hcheck : (settings.check tree cwd).result = .ok reports)
    (hdiscover : (settings.discover tree cwd).result = .ok types) :
    report ∈ reports ∧ report.status = .orphaned ↔
      tree.isDirectory cwd settings.outputDir = true ∧ settings.IsOrphan tree cwd types report := by
  obtain ⟨others, current, orphans, hothers, hforetells, horphans, rfl⟩ :=
    settings.exists_parts_of_check hcheck
  obtain rfl := Except.ok.inj (hdiscover.symm.trans hothers)
  have hmem : report ∈ orphans ↔ _ :=
    settings.mem_orphans_iff hlawful (settings.isFileName_matcherWay hlawful hdiscover) horphans
  rw [← hmem, List.mem_append]
  constructor
  · rintro ⟨hcurrent | horphan, hstatus⟩
    · exact absurd hstatus (settings.status_ne_orphaned hforetells hcurrent)
    · exact horphan
  · intro horphan
    obtain ⟨-, way, text, origin, -, -, -, -, -, rfl⟩ := hmem.1 horphan
    exact ⟨Or.inr horphan, rfl⟩

/-- The type of an orphan is declared in two cases: it is discovered, and its matcher belongs in
another file, or the packages leave it out. -/
theorem orphan_isDeclared_iff (hlawful : tree.Lawful)
    (hdiscover : (settings.discover tree cwd).result = .ok types)
    (horphan : settings.IsOrphan tree cwd types report) :
    settings.IsDeclared tree cwd report.typeName ↔
      (∃ type ∈ types, type.qualifiedName = report.typeName ∧
        report.file.components ≠ (settings.artifactPath type).components) ∨
      settings.IsDeclared tree cwd report.typeName ∧
        ∀ type, settings.DeclaresType tree cwd type → type.qualifiedName = report.typeName →
          ¬LiesInPackages settings.effectivePackages type := by
  have hfound : (∃ type ∈ types, type.qualifiedName = report.typeName) ↔ _ :=
    settings.exists_mem_discover_iff hlawful hdiscover
  constructor
  · intro hdeclared
    by_cases hselected : ∃ type, settings.DeclaresType tree cwd type ∧
        LiesInPackages settings.effectivePackages type ∧ type.qualifiedName = report.typeName
    · obtain ⟨type, htype, hname⟩ := hfound.2 hselected
      refine Or.inl ⟨type, htype, hname, fun hfile => ?_⟩
      -- a file with these components would be that of the type
      obtain ⟨way, name, ⟨-, text, hentry, -⟩, hplace, rfl⟩ := settings.isOrphan_iff.1 horphan
      have hway : ∀ name ∈ way, IsFileName name := fun name hmem =>
        hlawful.isFileName_of_entry hentry name (List.mem_append_right _ hmem)
      refine hplace (List.mem_map.2 ⟨type, htype, ?_⟩)
      rw [← location_pathBelow _ cwd hway]
      exact congrArg (Location.along cwd) hfile.symm
    · refine Or.inr ⟨hdeclared, fun type htype hname hpackages => hselected ?_⟩
      exact ⟨type, htype, hpackages, hname⟩
  · rintro (⟨type, htype, hname, -⟩ | ⟨hdeclared, -⟩)
    · obtain ⟨declared, hdeclared, -, hsame⟩ := hfound.1 ⟨type, htype, hname⟩
      exact ⟨declared, hdeclared, hsame⟩
    · exact hdeclared

/-- The type of every file that a check reports as orphaned is gone exactly if all matchers below
the output directory whose type is declared are in the places of matchers of discovered types.  An
orphan whose type is declared is a matcher in another place than its type calls for, or one for a
type that the packages leave out. -/
theorem orphans_gone_iff (hlawful : tree.Lawful)
    (hcheck : (settings.check tree cwd).result = .ok reports) :
    ∃ types, (settings.discover tree cwd).result = .ok types ∧
      ((∀ report ∈ reports, report.status = .orphaned →
          ¬settings.IsDeclared tree cwd report.typeName) ↔
        (tree.isDirectory cwd settings.outputDir = true → ∀ way name,
          settings.HoldsHeader tree cwd way name → settings.IsDeclared tree cwd name →
          settings.outputDir.location cwd ++ way ∈ types.map (settings.artifactPlace cwd))) ∧
      ∀ report ∈ reports, report.status = .orphaned →
        (settings.IsDeclared tree cwd report.typeName ↔
          (∃ type ∈ types, type.qualifiedName = report.typeName ∧
            report.file.components ≠ (settings.artifactPath type).components) ∨
          settings.IsDeclared tree cwd report.typeName ∧
            ∀ type, settings.DeclaresType tree cwd type →
              type.qualifiedName = report.typeName →
              ¬LiesInPackages settings.effectivePackages type) := by
  obtain ⟨types, -, -, hdiscover, -⟩ := settings.exists_parts_of_check hcheck
  have horphaned {report : CheckReport} : report ∈ reports ∧ report.status = .orphaned ↔ _ :=
    settings.mem_orphaned_iff hlawful hcheck hdiscover
  refine ⟨types, hdiscover, ⟨?_, ?_⟩, fun report hreport hstatus => ?_⟩
  · intro hgone hdirectory way name hheader hdeclared
    by_contra hplace
    have horphan : settings.IsOrphan tree cwd types
        ⟨name, pathBelow settings.outputDir way, .orphaned⟩ :=
      settings.isOrphan_iff.2 ⟨way, name, hheader, hplace, rfl⟩
    obtain ⟨hreport, hstatus⟩ := horphaned.2 ⟨hdirectory, horphan⟩
    exact hgone _ hreport hstatus hdeclared
  · intro hplaces report hreport hstatus hdeclared
    obtain ⟨hdirectory, horphan⟩ := horphaned.1 ⟨hreport, hstatus⟩
    obtain ⟨way, name, hheader, hplace, rfl⟩ := settings.isOrphan_iff.1 horphan
    exact hplace (hplaces hdirectory way name hheader hdeclared)
  · exact settings.orphan_isDeclared_iff hlawful hdiscover (horphaned.1 ⟨hreport, hstatus⟩).2

/-- In the crate with one orphan the type of it is gone, and there is no other matcher. -/
theorem orphans_gone_orphanCrate : orphanCrate.Lawful ∧
    (({ outputDir := ⟨"out"⟩ } : BatchSettings).check orphanCrate []).result =
      .ok [⟨"crate::User", ⟨"out/user_matcher.rs"⟩, .missing⟩,
        ⟨"crate::Old", ⟨"out/old_matcher.rs"⟩, .orphaned⟩] ∧
    ¬({ outputDir := ⟨"out"⟩ } : BatchSettings).IsDeclared orphanCrate [] "crate::Old" ∧
    ∀ way name, ({ outputDir := ⟨"out"⟩ } : BatchSettings).HoldsHeader orphanCrate [] way name →
      ({ outputDir := ⟨"out"⟩ } : BatchSettings).IsDeclared orphanCrate [] name →
      ["out"] ++ way = ["out", "user_matcher.rs"] := by
  have hlawful : orphanCrate.Lawful := by decide +kernel
  have hfound : (({ outputDir := ⟨"out"⟩ } : BatchSettings).discover orphanCrate []).result =
      .ok [libraryType "User"] :=
    isLibrary_unitStruct.discover hasLibrary_orphanCrate (List.pairwise_singleton _ _) _ rfl rfl
  have hold :
      ¬({ outputDir := ⟨"out"⟩ } : BatchSettings).IsDeclared orphanCrate [] "crate::Old" := by
    rw [isDeclared_iff_of_wholeCrate _ hlawful hfound (by decide)]
    decide +kernel
  obtain ⟨types, hdiscover, hgone, -⟩ :=
    ({ outputDir := ⟨"out"⟩ } : BatchSettings).orphans_gone_iff hlawful reports_orphanCrate
  obtain rfl := Except.ok.inj (hfound.symm.trans hdiscover)
  refine ⟨hlawful, reports_orphanCrate, hold, fun way name hheader hdeclared => ?_⟩
  have hplace := hgone.1 ?_ (by decide +kernel) way name hheader hdeclared
  · exact (List.mem_singleton.1 hplace).trans (by decide +kernel)
  · intro report hreport hstatus
    simp only [List.mem_cons, List.not_mem_nil, or_false] at hreport
    rcases hreport with rfl | rfl
    · exact absurd hstatus (by decide)
    · exact hold

/-- A crate with a struct and a matcher for it. -/
def matchedCrate : FileTree :=
  ⟨[(["src"], .directory),
    (["src", "lib.rs"], .file (.text "pub struct User;")),
    (["out"], .directory),
    (["out", "user_matcher.rs"],
      .file (.text (Provenance.header ⟨defaultGeneratorName, "crate::User"⟩)))]⟩

/-- Settings by which the struct is left out. -/
def modelsOnly : BatchSettings := { packages := ["crate::models"], outputDir := ⟨"out"⟩ }

/-- A check that is to look at one package only reports the matcher as orphaned, although the struct
is declared. -/
theorem check_orphans_declaredType :
    (modelsOnly.check matchedCrate []).result =
        .ok [⟨"crate::User", ⟨"out/user_matcher.rs"⟩, .orphaned⟩] ∧
      modelsOnly.IsDeclared matchedCrate [] "crate::User" := by
  have hdeclares : FileDeclares ⟨"src/"⟩ .root ["lib.rs"] "pub struct User;" (libraryType "User") :=
    fileDeclares_iff.2 ⟨by decide, isLibrary_unitStruct.result_scanFile ▸ List.mem_singleton_self _⟩
  refine ⟨by decide +kernel, libraryType "User", ?_, by decide +kernel⟩
  exact ⟨⟨"src/"⟩, by decide, ["lib.rs"], "pub struct User;", by decide +kernel, hdeclares⟩

end StructMatch.BatchSettings
