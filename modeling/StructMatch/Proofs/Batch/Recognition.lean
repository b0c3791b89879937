import StructMatch.Proofs.Batch.Rendering
import StructMatch.Proofs.ModulePath
import StructMatch.Proofs.Provenance

/-!
# Recognizing generated files

A scan passes over the files of a batch if it can read their provenance back.  Every matcher begins
with the header of its provenance, `source_of_render`, so it is recognized exactly if that header
is legible, and then no later scan takes anything in its file for a type: `recognized_iff_legible`.
The header is not legible for every batch, though, for the name of the generator and the names of
directories are written into it as they are: `blankCrate_unrecognized`.
-/

namespace StructMatch

open FileTree

/-! ## Full paths -/

/-- There is no slash in the full path of a type. -/
theorem slash_notMem_qualifiedName {type : StructType}
    (hname : Text.isIdentifier type.name.toList = true)
    (hsegments : ∀ segment ∈ type.modulePath.segments, IsFileName segment) :
    '/' ∉ type.qualifiedName.toList := by
  have hown : '/' ∉ type.name.toList := notMem_of_isIdentifier hname (by decide) (by decide)
  have hall : ∀ segment ∈ type.modulePath.segments ++ [type.name], '/' ∉ segment.toList := by
    intro segment hsegment
    rcases List.mem_append.1 hsegment with hmodule | hlast
    · exact (hsegments segment hmodule).no_separator
    · rwa [List.mem_singleton.1 hlast]
  rw [type.toList_qualifiedName, List.mem_append, not_or]
  exact ⟨by decide, notMem_trail (by decide) hall⟩

/-- The full path of a type begins with a letter. -/
theorem firstLine_qualifiedName_ne_nil (type : StructType) :
    firstLine type.qualifiedName ≠ [] := by
  have hhead : type.qualifiedName.toList.head? = some 'c' := by
    have hcrate : "crate".toList = 'c' :: "rate".toList := by decide
    rw [type.toList_qualifiedName, hcrate, List.cons_append, List.head?_cons]
  obtain ⟨rest, hrest⟩ := List.head?_eq_some_iff.1 hhead
  intro hnil
  rw [firstLine, hrest, List.takeWhile_cons_of_pos (by decide)] at hnil
  unfold Text.dropReturn at hnil
  split at hnil
  · next hreturn =>
      cases hline : rest.takeWhile (· ≠ '\n') with
      | nil =>
          rw [hline] at hreturn
          exact absurd hreturn (by decide)
      | cons c line =>
          rw [hline] at hnil
          exact absurd hnil (by simp)
  · exact absurd hnil (by simp)

namespace BatchSettings

variable (settings : BatchSettings)

/-! ## The header of a matcher -/

/-- The provenance of the matcher of a type. -/
def provenanceOf (type : StructType) : Provenance :=
  ⟨settings.generatorName, type.qualifiedName⟩

/-- Every matcher begins with the header of its provenance. -/
theorem source_of_render {type : StructType} {names : List String} {source : String}
    (h : (settings.options.specFor type names).render settings.runtime = .ok source) :
    ∃ body, source = (settings.provenanceOf type).header ++ body := by
  unfold MatcherSpec.render at h
  split at h
  · exact absurd h (by simp)
  · split at h
    · split at h
      · exact absurd h (by simp)
      · exact absurd h (by simp)
      · exact ⟨_, (Except.ok.inj h).symm⟩
    · exact absurd h (by simp)

/-- A matcher is recognized exactly if the header of its provenance is legible. -/
theorem isSome_read?_rendered {tree : FileTree} {cwd : Location} {type : StructType}
    {artifact : Artifact} (h : settings.rendered tree cwd type = .ok artifact) :
    (Provenance.read? artifact.source).isSome = true ↔ (settings.provenanceOf type).Legible := by
  obtain ⟨names, -, hrender, -⟩ := settings.renderMatcher_eq_ok_iff.1 h
  obtain ⟨body, hbody⟩ := settings.source_of_render hrender
  rw [hbody]
  exact Provenance.isSome_read?_iff _ body

/-- The header of a discovered type is legible if the generator has a name, on one line, and the
modules of the type have no blanks. -/
theorem legible_iff_of_declares {tree : FileTree} {cwd : Location} {root : Path} {way : Location}
    {text : String} {items : List Source.Item} {type : StructType}
    (h : Declares tree cwd root way text items type) (hlawful : tree.Lawful)
    (hname : '\n' ∉ settings.generatorName.toList) :
    (settings.provenanceOf type).Legible ↔
      settings.generatorName ≠ "" ∧ (firstLine type.qualifiedName).any Text.isBlank = false := by
  have hslash := slash_notMem_qualifiedName h.isIdentifier (h.isFileName_segments hlawful)
  have hne := firstLine_qualifiedName_ne_nil type
  exact Iff.trans (Provenance.legible_iff hname hslash)
    (and_congr_right fun _ => and_iff_right hne)

/-! ## Scans after a run -/

/-- Of the types with the same file the last one counts. -/
theorem exists_last {α β : Type} (f : α → β) {as : List α} {b : β} (h : b ∈ as.map f) :
    ∃ before a after, as = before ++ a :: after ∧ f a = b ∧ b ∉ after.map f := by
  induction as with
  | nil => exact absurd h (by simp)
  | cons a as ih =>
      by_cases hlater : b ∈ as.map f
      · obtain ⟨before, last, after, rfl, hlast⟩ := ih hlater
        exact ⟨a :: before, last, after, rfl, hlast⟩
      · rw [List.map_cons, List.mem_cons] at h
        exact ⟨[], a, as, rfl, (h.resolve_right hlater).symm, hlater⟩

/-- After a run every file that it wrote holds the matcher of one of its types. -/
theorem exists_rendered_of_generatedAll {w : Workspace} {types : List StructType}
    {paths : List Path} (h : (settings.generatedAll w types).2 = .ok paths) {place : Location}
    (hplace : place ∈ types.map (settings.artifactPlace w.cwd)) :
    ∃ type ∈ types, ∃ tree artifact, settings.rendered tree w.cwd type = .ok artifact ∧
      (settings.generatedAll w types).1.entryAt? place =
        some (.file (.text artifact.source)) := by
  obtain ⟨before, type, after, rfl, rfl, hlast⟩ :=
    exists_last (settings.artifactPlace w.cwd) hplace
  obtain ⟨tree, artifact, -, hrendered, hholds⟩ := settings.generatedAll_append h
  exact ⟨type, by simp, tree, artifact, hrendered, (hholds hlast).entry⟩

/-- What a run writes is recognized exactly if the header of the type is legible, which the names
decide.  If it is for all types, no later scan, by whatever settings, finds a type in a file that
the run wrote. -/
theorem recognized_iff_legible {w : Workspace} {types : List StructType} {paths : List Path}
    (hlawful : w.tree.Lawful) (hcwd : w.tree.entryAt? w.cwd = some .directory)
    (hdiscover : (settings.discover w.tree w.cwd).result = .ok types)
    (hrun : (settings.run w).2.result = .ok paths) :
    (∀ type ∈ types, ∀ tree artifact, settings.rendered tree w.cwd type = .ok artifact →
      ((Provenance.read? artifact.source).isSome = true ↔
        (settings.provenanceOf type).Legible)) ∧
    ('\n' ∉ settings.generatorName.toList → ∀ type ∈ types,
      ((settings.provenanceOf type).Legible ↔ settings.generatorName ≠ "" ∧
        (firstLine type.qualifiedName).any Text.isBlank = false)) ∧
    ((∀ type ∈ types, (settings.provenanceOf type).Legible) →
      ∀ (later : BatchSettings) (found : List StructType),
        (later.discover (settings.run w).1 w.cwd).result = .ok found →
        ∀ type ∈ found, ∀ declaration, type.declaration? = some declaration →
          declaration.file.location w.cwd ∉ types.map (settings.artifactPlace w.cwd)) := by
  obtain ⟨htree, hgenerated⟩ := settings.generatedAll_of_run hdiscover hrun
  have hlawful' := settings.lawful_generatedAll hlawful hcwd types
  refine ⟨fun type _ tree artifact hrendered => settings.isSome_read?_rendered hrendered, ?_, ?_⟩
  · intro hname type htype
    obtain ⟨root, -, way, text, items, hdeclares⟩ :=
      settings.declares_of_mem_discover hlawful hdiscover htype
    exact settings.legible_iff_of_declares hdeclares hlawful hname
  · intro hlegible later found hfound type htype declaration hdeclaration hplace
    rw [htree] at hfound
    obtain ⟨root, -, way, text, items, hdeclares⟩ :=
      later.declares_of_mem_discover hlawful' hfound htype
    obtain ⟨modules, hmodules⟩ := hdeclares.declaration
    obtain rfl := Option.some.inj (hdeclaration.symm.trans hmodules)
    -- the file at this place holds the matcher of one of the types
    obtain ⟨other, hother, tree, artifact, hrendered, hentry⟩ :=
      settings.exists_rendered_of_generatedAll hgenerated hplace
    rw [location_pathBelow root w.cwd (hdeclares.isFileName_way hlawful'), hdeclares.entry]
      at hentry
    obtain rfl := Content.text.inj (Entry.file.inj (Option.some.inj hentry))
    have hread := (settings.isSome_read?_rendered hrendered).2 (hlegible other hother)
    rw [hdeclares.unmarked] at hread
    exact absurd hread (by simp)

/-- The matcher in the crate of one type is recognized, and nothing is found in it. -/
theorem recognized_userCrate :
    (({} : BatchSettings).provenanceOf userType).Legible ∧
      ∀ (later : BatchSettings) (found : List StructType),
        (later.discover (({} : BatchSettings).run ⟨userCrate, [], noFaults⟩).1 []).result =
          .ok found →
        ∀ type ∈ found, ∀ declaration, type.declaration? = some declaration →
          declaration.file.location [] ∉
            [userType].map (({} : BatchSettings).artifactPlace []) := by
  have h := ({} : BatchSettings).recognized_iff_legible (w := ⟨userCrate, [], noFaults⟩)
    userSample.lawful rfl userSample.discovers run_userCrate
  have hlegible : (({} : BatchSettings).provenanceOf userType).Legible :=
    (h.2.1 (by decide) userType List.mem_cons_self).2 (by decide)
  refine ⟨hlegible, h.2.2 fun type htype => ?_⟩
  rw [List.mem_singleton.1 htype]
  exact hlegible

/-- A crate with a directory that has a blank in its name. -/
def blankCrate : FileTree :=
  ⟨[(["src"], .directory), (["src", "my dir"], .directory),
    (["src", "my dir", "user.rs"], .file (.text "pub struct User;"))]⟩

/-- The type that is found in it. -/
def blankType : StructType :=
  ⟨"User", ⟨["my dir", "user"]⟩, some ⟨⟨"src/my dir/user.rs"⟩, []⟩⟩

/-- A blank in the name of a directory keeps the matchers for the types below it from being
recognized. -/
theorem blankCrate_unrecognized :
    ∃ source, (({} : BatchSettings).run ⟨blankCrate, [], noFaults⟩).2.result =
        .ok [⟨"src/generated/my dir/user/user_matcher.rs"⟩] ∧
      (({} : BatchSettings).run ⟨blankCrate, [], noFaults⟩).1.entryAt?
        ["src", "generated", "my dir", "user", "user_matcher.rs"] = some (.file (.text source)) ∧
      Provenance.read? source = none := by
  have hdiscover : (({} : BatchSettings).discover blankCrate []).result = .ok [blankType] := by
    decide +kernel
  have hfields : blankCrate.fieldsOf [] blankType = .ok [] := by decide +kernel
  have hrun := ({} : BatchSettings).run_of_renderable (w := ⟨blankCrate, [], noFaults⟩)
    isPlainRuntime_default hdiscover (by decide) (.of_fieldsOf hfields (by decide) (by simp)) ""
    (by decide +kernel)
  have hpath : ({} : BatchSettings).artifactPath blankType =
      ⟨"src/generated/my dir/user/user_matcher.rs"⟩ := by
    decide +kernel
  obtain ⟨htree, hgenerated⟩ := ({} : BatchSettings).generatedAll_of_run hdiscover hrun
  have hplace : ["src", "generated", "my dir", "user", "user_matcher.rs"] ∈
      [blankType].map (({} : BatchSettings).artifactPlace []) := by
    decide +kernel
  have hillegible : ¬(({} : BatchSettings).provenanceOf blankType).Legible := by
    rw [Provenance.legible_iff (by decide +kernel) (by decide +kernel)]
    decide +kernel
  obtain ⟨type, htype, tree, artifact, hrendered, hentry⟩ :=
    ({} : BatchSettings).exists_rendered_of_generatedAll hgenerated hplace
  obtain rfl := List.mem_singleton.1 htype
  refine ⟨artifact.source, hrun.trans (by rw [hpath]), ?_, ?_⟩
  · rw [htree]
    exact hentry
  · rw [← Option.not_isSome_iff_eq_none, ({} : BatchSettings).isSome_read?_rendered hrendered]
    exact hillegible

end BatchSettings

end StructMatch
