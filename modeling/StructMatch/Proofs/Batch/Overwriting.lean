import StructMatch.Proofs.Batch.Effect
import StructMatch.Proofs.SnakeCase

/-!
# Sources in the places of matchers

A run keeps no list of the files that it reads.  It leaves a file that declares a type as it was
unless the matcher of some type belongs in the same place, and then it writes the matcher over it:
`source_kept_or_replaced`.  Only a file below the output directory whose name ends like that of a
matcher can be in such a place, and there are such files, `run_replaces_source`.
-/

namespace StructMatch

open FileTree Text

/-! ## Names of matcher files -/

/-- The file of every matcher has a name of the same ending. -/
theorem exists_matcherWay_eq (type : StructType) :
    ∃ stem, matcherWay type = type.modulePath.segments ++ [stem ++ "matcher.rs"] := by
  obtain ⟨stem, hstem⟩ := exists_snakeCase_className type.name
  refine ⟨stem, ?_⟩
  rw [matcherWay, hstem, String.append_assoc]
  rfl

namespace BatchSettings

variable (settings : BatchSettings) {w : Workspace} {types : List StructType} {type : StructType}
  {declaration : Declaration}

/-! ## What becomes of a source -/

/-- A run leaves a file that declares a type as it was, whether it succeeds or not, unless the
matcher of a type belongs in its place.  The place is then one below the output directory with the
name of a matcher file, and after a run that succeeds the file holds the matcher of a type that
belongs there. -/
theorem source_kept_or_replaced (hlawful : w.tree.Lawful)
    (hdiscover : (settings.discover w.tree w.cwd).result = .ok types) (htype : type ∈ types)
    (hdeclaration : type.declaration? = some declaration) :
    (declaration.file.location w.cwd ∉ types.map (settings.artifactPlace w.cwd) →
      ∃ text, w.tree.readText w.cwd declaration.file = .ok text ∧
        (settings.run w).1.readText w.cwd declaration.file = .ok text) ∧
    ∀ other ∈ types, settings.artifactPlace w.cwd other = declaration.file.location w.cwd →
      (∃ stem, declaration.file.location w.cwd = settings.outputDir.location w.cwd ++
        other.modulePath.segments ++ [stem ++ "matcher.rs"]) ∧
      ∀ paths, (settings.run w).2.result = .ok paths →
        ∃ last ∈ types, settings.artifactPlace w.cwd last = declaration.file.location w.cwd ∧
          ∃ names source,
            (settings.options.specFor last names).render settings.runtime = .ok source ∧
            (settings.run w).1.readText w.cwd declaration.file = .ok source := by
  have hleft : (settings.run w).1 = (settings.generatedAll w types).1 :=
    (Prod.mk.inj (settings.run_of_discover hdiscover)).1
  have hwrites := settings.writesWithin_generatedAll w types
  obtain ⟨text, hread⟩ := settings.readText_of_mem_discover hlawful hdiscover htype hdeclaration
  constructor
  · intro hplace
    rw [hleft]
    exact ⟨text, hread, hwrites.readText hplace hread⟩
  · intro other hother hplace
    constructor
    · obtain ⟨stem, hstem⟩ := exists_matcherWay_eq other
      have hnames := settings.isFileName_matcherWay hlawful hdiscover other hother
      refine ⟨stem, ?_⟩
      rw [← hplace, settings.artifactPlace_eq w.cwd hnames, hstem, List.append_assoc]
    · intro paths hrun
      obtain ⟨-, hgenerated⟩ := settings.generatedAll_of_run hdiscover hrun
      -- of the matchers that belong in this place, the last one is there in the end
      obtain ⟨before, last, after, hsplit, hlast, hlater⟩ :=
        exists_last (settings.artifactPlace w.cwd) (List.mem_map.2 ⟨other, hother, hplace⟩)
      subst hsplit
      obtain ⟨tree, artifact, -, hrendered, hholds⟩ := settings.generatedAll_append hgenerated
      obtain ⟨names, -, hrender, -⟩ := settings.renderMatcher_eq_ok_iff.1 hrendered
      have hentry : (settings.run w).1.entryAt? (declaration.file.location w.cwd) =
          some (.file (.text artifact.source)) := by
        rw [hleft, ← hlast]
        exact (hholds (by rwa [hlast])).entry
      rw [hleft] at hentry ⊢
      exact ⟨last, by simp, hlast, names, artifact.source, hrender,
        hwrites.readText_of_entry hread hentry⟩

/-- A crate in which a struct was declared by hand where the matcher of another one belongs. -/
def namesakeCrate : FileTree :=
  ⟨[(["src"], .directory), (["src", "generated"], .directory),
    (["src", "generated", "models"], .directory),
    (["src", "generated", "models", "user_matcher.rs"], .file (.text "pub struct Guest;")),
    (["src", "models.rs"], .file (.text "pub struct User;"))]⟩

/-- The struct that is declared there. -/
def guestType : StructType :=
  ⟨"Guest", ⟨["generated", "models", "user_matcher"]⟩,
    some ⟨⟨"src/generated/models/user_matcher.rs"⟩, []⟩⟩

/-- The struct whose matcher belongs there. -/
def modelType : StructType := ⟨"User", ⟨["models"]⟩, some ⟨⟨"src/models.rs"⟩, []⟩⟩

/-- The crate with both of them. -/
def namesakeSample : SampleCrate {} where
  tree := namesakeCrate
  types := [guestType, modelType]
  lawful := by decide +kernel
  discovers := by
    have hwalk : namesakeCrate.walk [] ⟨"src/"⟩ =
        namesakeCrate.entries.filterMap (listed? ["src"]) :=
      walk_of_pairwise (by decide +kernel) (by decide +kernel)
    refine ({} : BatchSettings).discover_of_pairwise rfl (by decide +kernel) ?_ (by decide +kernel)
    rw [hwalk]
    decide +kernel

/-- The matcher of the first struct is written below a directory of the name of the file. -/
theorem generated_guestType :
    (({} : BatchSettings).generated ⟨namesakeCrate, [], noFaults⟩ guestType).2 =
      .ok (({} : BatchSettings).artifactPath guestType) := by
  have hfields : namesakeCrate.fieldsOf [] guestType = .ok [] := by decide +kernel
  have hreplace : (namesakeCrate.replaceFile noRefusals []
      (({} : BatchSettings).artifactDir guestType)
      (({} : BatchSettings).artifactPath guestType) "").2 = .ok () := by
    decide +kernel
  obtain ⟨artifact, hrendered⟩ := (({} : BatchSettings).rendered_or_refused isPlainRuntime_default
    (by decide)).1 (.of_fieldsOf hfields (by decide) (by simp))
  exact ({} : BatchSettings).generated_of_replaceFile (w := ⟨namesakeCrate, [], noFaults⟩)
    hrendered hreplace

theorem run_namesakeCrate :
    (({} : BatchSettings).run ⟨namesakeCrate, [], noFaults⟩).2.result =
      .ok [⟨"src/generated/generated/models/user_matcher/guest_matcher.rs"⟩,
        ⟨"src/generated/models/user_matcher.rs"⟩] := by
  have hguest : ({} : BatchSettings).artifactPath guestType =
      ⟨"src/generated/generated/models/user_matcher/guest_matcher.rs"⟩ := by
    decide +kernel
  have hmodel : ({} : BatchSettings).artifactPath modelType =
      ⟨"src/generated/models/user_matcher.rs"⟩ := by
    decide +kernel
  have hfields : namesakeCrate.fieldsOf [] modelType = .ok [] := by decide +kernel
  have hread : ∀ declaration, modelType.declaration? = some declaration →
      declaration.file.location [] ∉ [({} : BatchSettings).artifactPlace [] guestType] ∧
        ∃ text, namesakeCrate.readText [] declaration.file = .ok text := by
    intro declaration hdeclaration
    obtain rfl := Option.some.inj hdeclaration
    exact ⟨by decide +kernel, "pub struct User;", by decide +kernel⟩
  -- the source of the first struct is in the place of the second matcher
  have hsource : namesakeCrate.Holds [] (({} : BatchSettings).artifactDir modelType)
      (({} : BatchSettings).artifactPath modelType) "pub struct Guest;" :=
    ⟨⟨["src", "generated", "models"], by decide +kernel, fun _ => by decide +kernel⟩,
      ⟨["src", "generated", "models", "user_matcher.rs"], by decide +kernel⟩, by decide +kernel⟩
  have hholds := hsource.of_writesWithin
    (({} : BatchSettings).writesWithin_generated ⟨namesakeCrate, [], noFaults⟩ guestType)
    (by decide +kernel)
  have hrun := ({} : BatchSettings).run_of_pair (w := ⟨namesakeCrate, [], noFaults⟩)
    namesakeSample.discovers isPlainRuntime_default (by decide)
    (.of_fieldsOf hfields (by decide) (by simp)) hread generated_guestType
    (hholds.replaceFile noRefusals).2
  rwa [hguest, hmodel] at hrun

/-- Of the sources of the crate a run keeps one, and the other one becomes a matcher. -/
theorem sources_namesakeCrate :
    (∃ text, (({} : BatchSettings).run ⟨namesakeCrate, [], noFaults⟩).1.readText []
      ⟨"src/models.rs"⟩ = .ok text) ∧
    ∃ type ∈ [guestType, modelType], ∃ names source,
      (({} : BatchSettings).options.specFor type names).render defaultRuntime = .ok source ∧
        (({} : BatchSettings).run ⟨namesakeCrate, [], noFaults⟩).1.readText []
          ⟨"src/generated/models/user_matcher.rs"⟩ = .ok source := by
  have hdiscover : (({} : BatchSettings).discover namesakeCrate []).result =
      .ok [guestType, modelType] := namesakeSample.discovers
  have hsource {type : StructType} (htype : type ∈ [guestType, modelType])
      {declaration : Declaration} (hdeclaration : type.declaration? = some declaration) :=
    ({} : BatchSettings).source_kept_or_replaced (w := ⟨namesakeCrate, [], noFaults⟩)
      namesakeSample.lawful hdiscover htype hdeclaration
  constructor
  · obtain ⟨text, -, hread⟩ := (hsource (by simp) (show modelType.declaration? = _ from rfl)).1
      (by decide)
    exact ⟨text, hread⟩
  · obtain ⟨type, htype, -, names, source, hrender, hread⟩ :=
      ((hsource (by simp) (show guestType.declaration? = _ from rfl)).2 modelType (by simp)
        (by decide)).2 _ run_namesakeCrate
    exact ⟨type, htype, names, source, hrender, hread⟩

/-- The path of a matcher can be that of a file that declares a type, and then the declaration is
lost. -/
theorem run_replaces_source :
    (({} : BatchSettings).discover namesakeCrate []).result = .ok [guestType, modelType] ∧
      guestType.declaration?.map (·.file) = some (({} : BatchSettings).artifactPath modelType) ∧
      namesakeCrate.readText [] ⟨"src/generated/models/user_matcher.rs"⟩ =
        .ok "pub struct Guest;" ∧
      (({} : BatchSettings).run ⟨namesakeCrate, [], noFaults⟩).1.readText []
        ⟨"src/generated/models/user_matcher.rs"⟩ ≠ .ok "pub struct Guest;" := by
  have hdiscover : (({} : BatchSettings).discover namesakeCrate []).result =
      .ok [guestType, modelType] := namesakeSample.discovers
  refine ⟨hdiscover, by decide +kernel, by decide +kernel, fun hread => ?_⟩
  obtain ⟨htree, hgenerated⟩ := ({} : BatchSettings).generatedAll_of_run
    (w := ⟨namesakeCrate, [], noFaults⟩) hdiscover run_namesakeCrate
  obtain ⟨type, htype, tree, artifact, hrendered, hentry⟩ :=
    ({} : BatchSettings).exists_rendered_of_generatedAll hgenerated
      (List.mem_map.2 ⟨modelType, by simp, rfl⟩)
  have hplace : ({} : BatchSettings).artifactPlace [] modelType =
      (⟨"src/generated/models/user_matcher.rs"⟩ : Path).location [] := by
    decide +kernel
  have hfile := entryAt?_of_readText hread
  rw [htree, ← hplace, hentry] at hfile
  have hsource : artifact.source = "pub struct Guest;" :=
    Content.text.inj (Entry.file.inj (Option.some.inj hfile))
  -- a matcher names its generator, which the source of the struct does not
  have hlegible : (({} : BatchSettings).provenanceOf type).Legible := by
    simp only [List.mem_cons, List.not_mem_nil, or_false] at htype
    rcases htype with rfl | rfl
    all_goals
      exact (Provenance.legible_iff (by decide +kernel) (by decide +kernel)).2 (by decide +kernel)
  have hmarked := (({} : BatchSettings).isSome_read?_rendered hrendered).2 hlegible
  rw [hsource] at hmarked
  exact absurd hmarked (by decide +kernel)

end BatchSettings

end StructMatch
