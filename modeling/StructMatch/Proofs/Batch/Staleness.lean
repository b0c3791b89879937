import StructMatch.Proofs.Batch.Check
import StructMatch.Proofs.Batch.Collision
import StructMatch.Proofs.Code.Distinctness

/-!
# Stale matchers

A matcher file that was rendered for other properties than its type has now is stale, and a check
says so.  Its text differs from the one that would be rendered now, since the text tells which
properties the matcher has: `check_misses_no_change`.
-/

namespace StructMatch

open FileTree

namespace BatchSettings

variable (settings : BatchSettings) {tree : FileTree} {cwd : Location} {type : StructType}
  {types : List StructType} {report : CheckReport} {reports : List CheckReport}
  {properties properties' : List String} {source : String}

/-- An orphan is not the file of a type. -/
theorem file_ne_of_isOrphan (hlawful : tree.Lawful) (htype : type ∈ types)
    (h : settings.IsOrphan tree cwd types report) : report.file ≠ settings.artifactPath type := by
  obtain ⟨way, text, origin, -, hentry, hplace, -, -, rfl⟩ := h
  have hway : ∀ name ∈ way, IsFileName name := fun name hmem =>
    hlawful.isFileName_of_entry hentry name (List.mem_append_right _ hmem)
  intro hfile
  refine hplace (List.mem_map.2 ⟨type, htype, ?_⟩)
  rw [artifactPlace, ← hfile]
  exact location_pathBelow _ cwd hway

/-- Of the discovered types, only the one that a matcher was rendered for can have its text again,
and only with the same properties. -/
theorem properties_eq_of_rendered (hlawful : tree.Lawful)
    (hdiscover : (settings.discover tree cwd).result = .ok types) (htype : type ∈ types)
    (hproperties : (GeneratorOptions.propertiesFor (tree.fieldsOf cwd) type).result =
      .ok properties)
    (hsource : (settings.options.specFor type properties').render settings.runtime = .ok source)
    {other : StructType} {artifact : Artifact} (hother : other ∈ types)
    (hfile : settings.artifactPath other = settings.artifactPath type)
    (hrendered : settings.rendered tree cwd other = .ok artifact)
    (hsame : artifact.source = source) : properties = properties' := by
  have hnames := settings.isFileName_matcherWay hlawful hdiscover
  have hidentifier : ∀ type ∈ types, Text.isIdentifier type.name.toList = true :=
    fun type => settings.isIdentifier_of_mem_discover hlawful hdiscover
  obtain ⟨names, hnamesFor, hrender, -⟩ := settings.renderMatcher_eq_ok_iff.1 hrendered
  rw [hsame] at hrender
  -- the two types share a file, so their full paths could differ only in their names
  have hshares := (settings.artifactPath_eq_iff (hnames other hother) (hnames type htype)).1 hfile
  have hpath := settings.qualifiedName_eq_of_render (hidentifier other hother)
    (hidentifier type htype) hshares.1 hrender hsource
  obtain rfl := settings.eq_of_mem_discover hdiscover hother htype hpath
  obtain rfl := Except.ok.inj (hproperties.symm.trans hnamesFor)
  exact Code.properties_eq_of_render_eq hrender hsource

/-- Matchers of a type with different properties have different texts.  So if the file of a
discovered type holds the matcher for other properties than those it has now, all that a check
reports of the file is that it is stale. -/
theorem check_misses_no_change :
    (∀ (naming : Naming) (generatorName : String) (type : StructType) (runtime : String)
      (properties properties' : List String) (source : String),
      (MatcherSpec.build naming generatorName type properties).render runtime = .ok source →
      (MatcherSpec.build naming generatorName type properties').render runtime = .ok source →
        properties = properties') ∧
    ∀ (settings : BatchSettings) (tree : FileTree) (cwd : Location) (types : List StructType)
      (reports : List CheckReport), tree.Lawful →
      (settings.discover tree cwd).result = .ok types →
      (settings.check tree cwd).result = .ok reports →
      ∀ type ∈ types, ∀ (properties properties' : List String) (source : String),
        (GeneratorOptions.propertiesFor (tree.fieldsOf cwd) type).result = .ok properties →
        (settings.options.specFor type properties').render settings.runtime = .ok source →
        tree.readText cwd (settings.artifactPath type) = .ok source →
        properties ≠ properties' →
          ⟨type.qualifiedName, settings.artifactPath type, .stale⟩ ∈ reports ∧
          ∀ report ∈ reports, report.file = settings.artifactPath type →
            report.status = .stale := by
  refine ⟨fun naming generatorName type runtime properties properties' source h h' =>
    Code.properties_eq_of_render_eq h h', ?_⟩
  intro settings tree cwd types reports hlawful hdiscover hcheck type htype properties properties'
    source hproperties hsource hread hne
  obtain ⟨types', current, orphans, hdiscover', rfl, -, hforetells, -, horphans, hnone⟩ :=
    settings.check_eq_ok hlawful hcheck
  obtain rfl := Except.ok.inj (hdiscover.symm.trans hdiscover')
  have hnames := settings.isFileName_matcherWay hlawful hdiscover
  have hstale : ∀ other ∈ types, ∀ report, settings.Foretells tree cwd other report →
      report.file = settings.artifactPath type → report.status = .stale := by
    intro other hother report hreport hfile
    obtain ⟨artifact, hrendered, hstatus⟩ := hreport.rendered
    rw [hfile, hread] at hstatus
    refine (hstatus .stale).2 ⟨source, artifact.source, rfl, rfl, fun hsame => hne ?_⟩
    exact settings.properties_eq_of_rendered hlawful hdiscover htype hproperties hsource hother
      (hreport.file.symm.trans hfile) hrendered hsame.symm
  have horphan : ∀ report ∈ orphans, report.file ≠ settings.artifactPath type := by
    intro report hreport
    by_cases htext : settings.outputDir.text = ""
    · rw [hnone htext] at hreport
      exact absurd hreport List.not_mem_nil
    · exact settings.file_ne_of_isOrphan hlawful htype ((horphans htext report).1 hreport).1
  constructor
  · obtain ⟨report, hreport, hforetold⟩ := exists_mem_of_forall₂ hforetells htype
    have hstatus := hstale type htype report hforetold hforetold.file
    obtain ⟨typeName, file, status⟩ := report
    obtain ⟨rfl, rfl⟩ : typeName = type.qualifiedName ∧ file = settings.artifactPath type :=
      ⟨hforetold.typeName, hforetold.file⟩
    obtain rfl : status = .stale := hstatus
    exact List.mem_append_left _ hreport
  · intro report hreport hfile
    rcases List.mem_append.1 hreport with hcurrent | hleft
    · obtain ⟨other, hother, hforetold⟩ := exists_mem_of_forall₂ hforetells.flip hcurrent
      exact hstale other hother report hforetold hfile
    · exact absurd hfile (horphan report hleft)

/-! ## A crate with a stale matcher -/

/-- The settings by which matchers are written beside the sources. -/
def besideSources : BatchSettings := { outputDir := ⟨"out"⟩ }

/-- The matcher for the struct as it was, with another field. -/
def formerSource : String :=
  ((besideSources.options.specFor userType ["id"]).render besideSources.runtime).toOption.getD ""

/-- A crate with a struct and the matcher of what the struct was before. -/
def staleCrate : FileTree :=
  ⟨[(["src"], .directory),
    (["src", "lib.rs"], .file (.text "pub struct User \x7b name: String \x7d")),
    (["out"], .directory), (["out", "user_matcher.rs"], .file (.text formerSource))]⟩

theorem hasLibrary_staleCrate :
    HasLibrary staleCrate [] ⟨"src/"⟩ "pub struct User \x7b name: String \x7d" :=
  hasLibrary_cons _ (by decide)

/-- The crate with what is found in it. -/
def staleSample : SampleCrate besideSources where
  tree := staleCrate
  types := [userType]
  lawful := by decide +kernel
  discovers :=
    isLibrary_userCrate.discover hasLibrary_staleCrate (List.pairwise_singleton _ _) besideSources
      rfl rfl

/-- The matcher for one field is rendered, if the name of the field can be used. -/
theorem exists_render_userType (name : String) (hname : Text.isIdentifier name.toList = true)
    (hword : name ∉ Text.pathWords) :
    ∃ source, (besideSources.options.specFor userType [name]).render besideSources.runtime =
      .ok source :=
  besideSources.render_of_not_isReserved isPlainRuntime_default (by decide)
    (List.forall_mem_singleton.2 hname) (List.forall_mem_singleton.2 hword) (by decide)

theorem render_formerSource :
    (besideSources.options.specFor userType ["id"]).render besideSources.runtime =
      .ok formerSource := by
  obtain ⟨source, hsource⟩ := exists_render_userType "id" (by decide) (by decide)
  rw [formerSource, hsource]
  rfl

theorem readText_staleCrate :
    staleCrate.readText [] (besideSources.artifactPath userType) = .ok formerSource := by
  have hout : staleCrate.isDirectory [] ⟨"out"⟩ = true := by decide
  have hway : matcherWay userType = ["user_matcher.rs"] := by decide
  have hplace : (⟨"out"⟩ : Path).location [] ++ matcherWay userType = ["out", "user_matcher.rs"] :=
    by decide
  refine staleSample.lawful.readText_pathBelow hout (by simp [hway]) ?_
  rw [hplace]
  rfl

/-- A check of the crate reports the matcher as stale, and nothing else of its file. -/
theorem check_staleCrate : ∃ reports, staleCrate.Lawful ∧
    (besideSources.discover staleCrate []).result = .ok [userType] ∧
    (besideSources.check staleCrate []).result = .ok reports ∧
    (GeneratorOptions.propertiesFor (staleCrate.fieldsOf []) userType).result = .ok ["name"] ∧
    (besideSources.options.specFor userType ["id"]).render besideSources.runtime =
      .ok formerSource ∧
    staleCrate.readText [] (besideSources.artifactPath userType) = .ok formerSource ∧
    ⟨userType.qualifiedName, besideSources.artifactPath userType, .stale⟩ ∈ reports ∧
    ∀ report ∈ reports, report.file = besideSources.artifactPath userType →
      report.status = .stale := by
  have hproperties : (GeneratorOptions.propertiesFor (staleCrate.fieldsOf []) userType).result =
      .ok ["name"] :=
    propertiesFor_of_ok (isLibrary_userCrate.fieldsOf hasLibrary_staleCrate List.mem_cons_self)
  have hdiscover : (besideSources.discover staleCrate []).result = .ok [userType] :=
    staleSample.discovers
  -- a file that can be read has a status
  obtain ⟨source, hsource⟩ := exists_render_userType "name" (by decide) (by decide)
  have hrendered : besideSources.rendered staleCrate [] userType =
      .ok ⟨besideSources.artifactPath userType, source⟩ := by
    rw [besideSources.rendered_of_propertiesFor hproperties, hsource]
    rfl
  obtain ⟨status, hstatus⟩ : ∃ status,
      statusOf staleCrate [] ⟨besideSources.artifactPath userType, source⟩ = .ok status := by
    rw [statusOf, readText_staleCrate]
    exact ⟨_, rfl⟩
  have horphans : besideSources.orphans staleCrate [] [besideSources.artifactPath userType] =
      .ok [] := by
    decide +kernel
  have hcheck : (besideSources.check staleCrate []).result =
      .ok [⟨userType.qualifiedName, besideSources.artifactPath userType, status⟩] := by
    have hreports := besideSources.reportsFor_cons_of_ok hrendered []
    rw [hstatus] at hreports
    rw [besideSources.check_of_discover hdiscover, hreports]
    exact congrArg (Except.map _) horphans
  obtain ⟨-, hstale⟩ := check_misses_no_change
  exact ⟨_, staleSample.lawful, hdiscover, hcheck, hproperties, render_formerSource,
    readText_staleCrate, hstale besideSources staleCrate [] [userType] _ staleSample.lawful
      hdiscover hcheck userType List.mem_cons_self ["name"] ["id"] formerSource hproperties
      render_formerSource readText_staleCrate (by decide)⟩

end BatchSettings

end StructMatch
