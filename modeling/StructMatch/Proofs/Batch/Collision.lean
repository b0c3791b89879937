import StructMatch.Proofs.Batch.Recognition

/-!
# Types that share a file

The file of a matcher is named for the class of the matcher in small letters, so types of one module
share a file when their names differ in no more than that takes away: `artifactPath_eq_iff`.  Of the
types with the same file a run leaves the matcher of the last one only, `matcher_kept_iff`, and
there are such types, `acronymCrate_collides`.
-/

namespace StructMatch

open FileTree

/-- Whether the matchers of two types belong in the same file. -/
def SharesFile (a b : StructType) : Prop :=
  a.modulePath = b.modulePath ∧ snakeCase (a.name ++ "Matcher") = snakeCase (b.name ++ "Matcher")

instance (a b : StructType) : Decidable (SharesFile a b) :=
  inferInstanceAs (Decidable (_ ∧ _))

theorem matcherWay_eq_iff {a b : StructType} : matcherWay a = matcherWay b ↔ SharesFile a b := by
  unfold matcherWay SharesFile
  rw [List.append_singleton_inj, String.append_left_inj]
  constructor
  · rintro ⟨hsegments, hclass⟩
    exact ⟨congrArg ModulePath.mk hsegments, hclass⟩
  · rintro ⟨hmodule, hclass⟩
    exact ⟨congrArg ModulePath.segments hmodule, hclass⟩

example : SharesFile (libraryType "HTTPServer") (libraryType "HttpServer") := by
  decide +kernel

/-! ## Headers of types with the same file -/

/-- An identifier ends where the line does. -/
theorem takeWhile_append_newline {name : String} (h : Text.isIdentifier name.toList = true)
    (rest : List Char) :
    (name.toList ++ '\n' :: rest).takeWhile (· ≠ '\n') = name.toList := by
  have hnewline : '\n' ∉ name.toList := notMem_of_isIdentifier h (by decide) (by decide)
  have hall : ∀ c ∈ name.toList, decide (c ≠ '\n') = true := by
    intro c hc
    exact decide_eq_true fun heq => hnewline (heq ▸ hc)
  rw [List.takeWhile_append_of_pos hall, List.takeWhile_cons_of_neg (by simp), List.append_nil]

namespace BatchSettings

variable (settings : BatchSettings)

/-- Two types of one module whose matchers have the same text have the same name. -/
theorem name_eq_of_source_eq {a b : StructType} {body body' : String}
    (ha : Text.isIdentifier a.name.toList = true) (hb : Text.isIdentifier b.name.toList = true)
    (hmodule : a.modulePath = b.modulePath)
    (h : (settings.provenanceOf a).header ++ body = (settings.provenanceOf b).header ++ body') :
    a.name = b.name := by
  have hend : "\n\n".toList = ['\n', '\n'] := by decide
  have htext := congrArg String.toList h
  unfold Provenance.header provenanceOf StructType.qualifiedName at htext
  simp only [String.toList_append, hmodule, hend, List.append_assoc, List.append_cancel_left_eq,
    List.cons_append, List.nil_append] at htext
  -- up to the names both headers are the same, and the names end where the line does
  have hlines := congrArg (List.takeWhile (· ≠ '\n')) htext
  rw [takeWhile_append_newline ha, takeWhile_append_newline hb] at hlines
  exact String.toList_inj.1 hlines

/-! ## The matchers that are kept -/

/-- Types have the same matcher file exactly if their matchers share it. -/
theorem artifactPath_eq_iff {a b : StructType} (ha : ∀ name ∈ matcherWay a, IsFileName name)
    (hb : ∀ name ∈ matcherWay b, IsFileName name) :
    settings.artifactPath a = settings.artifactPath b ↔ SharesFile a b := by
  rw [artifactPath, artifactPath, pathBelow_inj ha hb, matcherWay_eq_iff]

theorem artifactPlace_eq_iff (cwd : Location) {a b : StructType}
    (ha : ∀ name ∈ matcherWay a, IsFileName name) (hb : ∀ name ∈ matcherWay b, IsFileName name) :
    settings.artifactPlace cwd a = settings.artifactPlace cwd b ↔ SharesFile a b := by
  rw [settings.artifactPlace_eq cwd ha, settings.artifactPlace_eq cwd hb,
    List.append_cancel_left_eq, matcherWay_eq_iff]

/-- Whether the file of a type holds a matcher for it, for whatever properties. -/
def HoldsMatcher (tree : FileTree) (cwd : Location) (type : StructType) : Prop :=
  ∃ names source, (settings.options.specFor type names).render settings.runtime = .ok source ∧
    tree.readText cwd (settings.artifactPath type) = .ok source

/-- Two types of one module with a matcher of the same text have the same full path. -/
theorem qualifiedName_eq_of_render {a b : StructType} {names names' : List String}
    {source : String} (ha : Text.isIdentifier a.name.toList = true)
    (hb : Text.isIdentifier b.name.toList = true) (hmodule : a.modulePath = b.modulePath)
    (h : (settings.options.specFor a names).render settings.runtime = .ok source)
    (h' : (settings.options.specFor b names').render settings.runtime = .ok source) :
    a.qualifiedName = b.qualifiedName := by
  obtain ⟨body, rfl⟩ := settings.source_of_render h
  obtain ⟨body', hbody⟩ := settings.source_of_render h'
  rw [StructType.qualifiedName, StructType.qualifiedName, hmodule,
    settings.name_eq_of_source_eq ha hb hmodule hbody]

/-- After a run that succeeds, the file of a type holds its matcher exactly if no later type has the
same file. -/
theorem holdsMatcher_iff {w : Workspace} {types : List StructType} {paths : List Path}
    (h : (settings.generatedAll w types).2 = .ok paths)
    (hidentifiers : ∀ type ∈ types, Text.isIdentifier type.name.toList = true)
    (hnames : ∀ type ∈ types, ∀ name ∈ matcherWay type, IsFileName name)
    (hdistinct : types.Pairwise fun a b => a.qualifiedName ≠ b.qualifiedName)
    {before after : List StructType} {type : StructType}
    (hsplit : types = before ++ type :: after) :
    settings.HoldsMatcher (settings.generatedAll w types).1 w.cwd type ↔
      ∀ other ∈ after, ¬SharesFile type other := by
  have hmem : ∀ other ∈ after, other ∈ types := by
    intro other hother
    rw [hsplit]
    simp [hother]
  have htype : type ∈ types := by
    rw [hsplit]
    simp
  have hplace : ∀ other ∈ types, (settings.artifactPlace w.cwd type =
      settings.artifactPlace w.cwd other ↔ SharesFile type other) :=
    fun other hother =>
      settings.artifactPlace_eq_iff w.cwd (hnames type htype) (hnames other hother)
  constructor
  · rintro ⟨names, source, hrender, hread⟩ other hother hshares
    -- the file holds the matcher of the last type that has it, which comes after this one
    have hlater : settings.artifactPlace w.cwd type ∈
        after.map (settings.artifactPlace w.cwd) :=
      List.mem_map.2 ⟨other, hother, ((hplace other (hmem other hother)).2 hshares).symm⟩
    obtain ⟨between, last, rest, hafter, hsame, hlast⟩ :=
      exists_last (settings.artifactPlace w.cwd) hlater
    have hlastMem : last ∈ after := by
      rw [hafter]
      simp
    have hlastShares := (hplace last (hmem last hlastMem)).1 hsame.symm
    rw [hsplit, hafter, ← List.cons_append, ← List.append_assoc] at h hread
    obtain ⟨tree, artifact, -, hrendered, hholds⟩ := settings.generatedAll_append h
    rw [← hsame] at hlast
    have hentry := (hholds hlast).entry
    have htext := entryAt?_of_readText hread
    rw [show (settings.artifactPath last).location w.cwd =
      (settings.artifactPath type).location w.cwd from hsame, htext] at hentry
    obtain rfl := Content.text.inj (Entry.file.inj (Option.some.inj hentry))
    obtain ⟨names', -, hrender', -⟩ := settings.renderMatcher_eq_ok_iff.1 hrendered
    have hne : type.qualifiedName ≠ last.qualifiedName := by
      rw [hsplit, List.pairwise_append, List.pairwise_cons] at hdistinct
      exact hdistinct.2.1.1 last hlastMem
    exact hne (settings.qualifiedName_eq_of_render (hidentifiers type htype)
      (hidentifiers last (hmem last hlastMem)) hlastShares.1 hrender hrender')
  · intro hnone
    rw [hsplit] at h ⊢
    obtain ⟨tree, artifact, -, hrendered, hholds⟩ := settings.generatedAll_append h
    obtain ⟨names, -, hrender, -⟩ := settings.renderMatcher_eq_ok_iff.1 hrendered
    refine ⟨names, artifact.source, hrender, (hholds ?_).readText⟩
    intro hlater
    obtain ⟨other, hother, hsame⟩ := List.mem_map.1 hlater
    exact hnone other hother ((hplace other (hmem other hother)).1 hsame.symm)

/-- Types that are discovered share a file when they are of one module and their classes have one
name in snake case.  A run that succeeds leaves the matchers of exactly those types that share their
file with no later one. -/
theorem matcher_kept_iff {w : Workspace} {types : List StructType} (hlawful : w.tree.Lawful)
    (hdiscover : (settings.discover w.tree w.cwd).result = .ok types) :
    (∀ a ∈ types, ∀ b ∈ types,
      (settings.artifactPath a = settings.artifactPath b ↔ SharesFile a b)) ∧
    ((types.map settings.artifactPath).Nodup ↔ types.Pairwise fun a b => ¬SharesFile a b) ∧
    ∀ paths, (settings.run w).2.result = .ok paths →
      paths = types.map settings.artifactPath ∧
      ∀ before type after, types = before ++ type :: after →
        (settings.HoldsMatcher (settings.run w).1 w.cwd type ↔
          ∀ other ∈ after, ¬SharesFile type other) := by
  have hnames := settings.isFileName_matcherWay hlawful hdiscover
  have hpath : ∀ a ∈ types, ∀ b ∈ types,
      (settings.artifactPath a = settings.artifactPath b ↔ SharesFile a b) :=
    fun a ha b hb => settings.artifactPath_eq_iff (hnames a ha) (hnames b hb)
  refine ⟨hpath, ?_, fun paths hrun => ?_⟩
  · rw [List.Nodup, List.pairwise_map]
    constructor
    · exact List.Pairwise.imp_of_mem fun ha hb hne hshares => hne ((hpath _ ha _ hb).2 hshares)
    · exact List.Pairwise.imp_of_mem fun ha hb hshares hsame => hshares ((hpath _ ha _ hb).1 hsame)
  · obtain ⟨htree, hgenerated⟩ := settings.generatedAll_of_run hdiscover hrun
    refine ⟨settings.paths_of_generatedAll hgenerated, fun before type after hsplit => ?_⟩
    have hidentifiers : ∀ type ∈ types, Text.isIdentifier type.name.toList = true := by
      intro type htype
      obtain ⟨root, -, way, text, items, hdeclares⟩ :=
        settings.declares_of_mem_discover hlawful hdiscover htype
      exact hdeclares.isIdentifier
    have hdistinct : types.Pairwise fun a b => a.qualifiedName ≠ b.qualifiedName :=
      (settings.pairwise_discover hdiscover).imp fun hlt => ne_of_lt hlt
    rw [htree]
    exact settings.holdsMatcher_iff hgenerated hidentifiers hnames hdistinct hsplit

/-- Where two types are discovered, a run that writes the matcher of the first one writes that of
the second one too, if this one can be rendered and its file can be replaced by then. -/
theorem run_of_pair {w : Workspace} {first second : StructType} {path : Path} {text : String}
    (hdiscover : (settings.discover w.tree w.cwd).result = .ok [first, second])
    (hruntime : IsPlainRuntime settings.runtime)
    (hname : Text.isIdentifier second.name.toList = true) (h : Renderable w.tree w.cwd second)
    (hread : ∀ declaration, second.declaration? = some declaration →
      declaration.file.location w.cwd ∉ [settings.artifactPlace w.cwd first] ∧
        ∃ text, w.tree.readText w.cwd declaration.file = .ok text)
    (hfirst : (settings.generated w first).2 = .ok path)
    (hreplace : ((settings.generated w first).1.replaceFile (w.faults 1) w.cwd
      (settings.artifactDir second) (settings.artifactPath second) text).2 = .ok ()) :
    (settings.run w).2.result = .ok [path, settings.artifactPath second] := by
  obtain ⟨artifact, hrendered⟩ := (settings.rendered_or_refused hruntime hname).1 h
  -- writing the first matcher leaves the source of the second one
  rw [← settings.rendered_of_writesWithin (settings.writesWithin_generated w first) hread]
    at hrendered
  have hsecond := settings.generated_of_replaceFile
    (w := w.after 1 (settings.generated w first).1) hrendered hreplace
  have hrun := settings.run_of_discover hdiscover
  rw [settings.generatedAll_cons_of_ok hfirst, settings.generatedAll_cons_of_ok hsecond] at hrun
  exact (Prod.mk.inj hrun).2

/-! ## Crates with two types -/

section Library

variable {text : String} {declared : List (String × Except IntrospectionError (List Source.Field))}
  (h : IsLibrary ⟨"src/"⟩ text declared) (name : String) (hname : (name, .ok []) ∈ declared)
  (hreserved : Text.isReserved name = false)
include h hname hreserved

/-- A struct of a library without fields has a matcher that can be rendered. -/
theorem renderable_libraryType : Renderable (crateOf text) [] (libraryType name) :=
  .of_fieldsOf (h.fieldsOf (hasLibrary_crateOf text) hname) hreserved (List.forall_mem_nil _)

/-- The matcher of such a struct is written first if its file can be replaced. -/
theorem generated_libraryType {faults : Faults}
    (hidentifier : Text.isIdentifier name.toList = true)
    (hreplace : ((crateOf text).replaceFile (faults 0) []
      (({} : BatchSettings).artifactDir (libraryType name))
      (({} : BatchSettings).artifactPath (libraryType name)) "").2 = .ok ()) :
    (({} : BatchSettings).generated ⟨crateOf text, [], faults⟩ (libraryType name)).2 =
      .ok (({} : BatchSettings).artifactPath (libraryType name)) := by
  obtain ⟨artifact, hrendered⟩ := (({} : BatchSettings).rendered_or_refused isPlainRuntime_default
    hidentifier).1 (renderable_libraryType h name hname hreserved)
  exact ({} : BatchSettings).generated_of_replaceFile (w := ⟨crateOf text, [], faults⟩) hrendered
    hreplace

end Library

/-- The library of a crate is read as it was after a matcher was written in another place. -/
theorem readable_libraryType (text : String) {first : StructType} {name : String}
    (hplace : ["src", "lib.rs"] ≠ ({} : BatchSettings).artifactPlace [] first)
    (declaration : Declaration) (h : (libraryType name).declaration? = some declaration) :
    declaration.file.location [] ∉ [({} : BatchSettings).artifactPlace [] first] ∧
      ∃ text', (crateOf text).readText [] declaration.file = .ok text' := by
  obtain rfl := Option.some.inj h
  exact ⟨fun hmem => hplace (List.mem_singleton.1 hmem), text, (hasLibrary_crateOf text).readText⟩

/-- A crate with two structs that have matchers of their own files. -/
def pairCrate : FileTree := crateOf "pub struct Guest;\npub struct User;"

theorem isLibrary_pairCrate :
    IsLibrary ⟨"src/"⟩ "pub struct Guest;\npub struct User;"
      [("Guest", .ok []), ("User", .ok [])] := by
  decide +kernel

/-- The crate with both of them. -/
def pairSample : SampleCrate {} where
  tree := pairCrate
  types := [libraryType "Guest", libraryType "User"]
  lawful := lawful_crateOf _
  discovers :=
    isLibrary_pairCrate.discover (hasLibrary_crateOf _)
      (List.pairwise_pair.2 (by decide +kernel)) {} rfl rfl

/-- The first matcher is written wherever the device does not refuse it. -/
theorem generated_guest (faults : Faults) (h : faults 0 = noRefusals) :
    (({} : BatchSettings).generated ⟨pairCrate, [], faults⟩ (libraryType "Guest")).2 =
      .ok ⟨"src/generated/guest_matcher.rs"⟩ := by
  have hpath : ({} : BatchSettings).artifactPath (libraryType "Guest") =
      ⟨"src/generated/guest_matcher.rs"⟩ := by
    decide +kernel
  have hreplace : (pairCrate.replaceFile noRefusals []
      (({} : BatchSettings).artifactDir (libraryType "Guest"))
      (({} : BatchSettings).artifactPath (libraryType "Guest")) "").2 = .ok () := by
    decide +kernel
  rw [← h] at hreplace
  rw [← hpath]
  exact generated_libraryType isLibrary_pairCrate "Guest" (by simp) (by decide) (by decide) hreplace

/-- A run of the crate writes both matchers. -/
theorem run_pairCrate : (({} : BatchSettings).run ⟨pairCrate, [], noFaults⟩).2.result =
    .ok [⟨"src/generated/guest_matcher.rs"⟩, ⟨"src/generated/user_matcher.rs"⟩] := by
  have hpath : ({} : BatchSettings).artifactPath (libraryType "User") =
      ⟨"src/generated/user_matcher.rs"⟩ := by
    decide +kernel
  have hguest := generated_guest noFaults rfl
  obtain ⟨-, artifact, -, hholds⟩ := ({} : BatchSettings).holds_generated hguest
  -- nothing is in the place of the second matcher after the first one was written
  have hentry : (({} : BatchSettings).generated ⟨pairCrate, [], noFaults⟩
      (libraryType "Guest")).1.entryAt? (["src", "generated"] ++ ["user_matcher.rs"]) =
        pairCrate.entryAt? (["src", "generated"] ++ ["user_matcher.rs"]) :=
    ({} : BatchSettings).entryAt?_generated pairSample.lawful rfl (by decide +kernel)
      (by decide +kernel)
  have hplace : (⟨"src/generated/user_matcher.rs"⟩ : Path).location [] =
      ["src", "generated"] ++ ["user_matcher.rs"] := by
    decide +kernel
  have hdirectory : (({} : BatchSettings).generated ⟨pairCrate, [], noFaults⟩
      (libraryType "Guest")).1.entryAt?
        ((⟨"src/generated/user_matcher.rs"⟩ : Path).location []) ≠ some .directory := by
    rw [hplace, hentry]
    decide
  have hdir : (({} : BatchSettings).artifactDir (libraryType "User")).components =
      (({} : BatchSettings).artifactDir (libraryType "Guest")).components := by
    decide +kernel
  have hname : (⟨"src/generated/user_matcher.rs"⟩ : Path).components.getLast? =
      some (.name "user_matcher.rs") := by
    decide +kernel
  have hreplace := hholds.replaceFile_beside hdir (by decide +kernel) hname (by decide)
    (by decide) hdirectory ""
  rw [← hpath] at hreplace ⊢
  exact ({} : BatchSettings).run_of_pair (w := ⟨pairCrate, [], noFaults⟩) pairSample.discovers
    isPlainRuntime_default (by decide)
    (renderable_libraryType isLibrary_pairCrate "User" (by simp) (by decide))
    (readable_libraryType _ (by decide +kernel)) hguest hreplace

/-- A crate with two structs whose names differ in the case of an acronym. -/
def acronymCrate : FileTree := crateOf "pub struct HTTPServer;\npub struct HttpServer;"

theorem isLibrary_acronymCrate :
    IsLibrary ⟨"src/"⟩ "pub struct HTTPServer;\npub struct HttpServer;"
      [("HTTPServer", .ok []), ("HttpServer", .ok [])] := by
  decide +kernel

/-- The crate with both of them. -/
def acronymSample : SampleCrate {} where
  tree := acronymCrate
  types := [libraryType "HTTPServer", libraryType "HttpServer"]
  lawful := lawful_crateOf _
  discovers :=
    isLibrary_acronymCrate.discover (hasLibrary_crateOf _)
      (List.pairwise_pair.2 (by decide +kernel)) {} rfl rfl

theorem generated_httpServer :
    (({} : BatchSettings).generated ⟨acronymCrate, [], noFaults⟩ (libraryType "HTTPServer")).2 =
      .ok (({} : BatchSettings).artifactPath (libraryType "HTTPServer")) := by
  have hreplace : (acronymCrate.replaceFile noRefusals []
      (({} : BatchSettings).artifactDir (libraryType "HTTPServer"))
      (({} : BatchSettings).artifactPath (libraryType "HTTPServer")) "").2 = .ok () := by
    decide +kernel
  exact generated_libraryType isLibrary_acronymCrate "HTTPServer" (by simp) (by decide)
    (by decide) hreplace

/-- A run of the crate writes two matchers to one file. -/
theorem run_acronymCrate : (({} : BatchSettings).run ⟨acronymCrate, [], noFaults⟩).2.result =
    .ok [⟨"src/generated/http_server_matcher.rs"⟩, ⟨"src/generated/http_server_matcher.rs"⟩] := by
  have hname : ({} : BatchSettings).artifactPath (libraryType "HTTPServer") =
      ⟨"src/generated/http_server_matcher.rs"⟩ := by
    decide +kernel
  have hpath : ({} : BatchSettings).artifactPath (libraryType "HttpServer") =
      ({} : BatchSettings).artifactPath (libraryType "HTTPServer") := by
    decide +kernel
  have hdir : ({} : BatchSettings).artifactDir (libraryType "HttpServer") =
      ({} : BatchSettings).artifactDir (libraryType "HTTPServer") := by
    rw [artifactDir, artifactDir, hpath]
  -- the first matcher is in the place of the second one
  obtain ⟨-, written, -, hholds⟩ := ({} : BatchSettings).holds_generated generated_httpServer
  rw [← hdir, ← hpath] at hholds
  have hrun := ({} : BatchSettings).run_of_pair (w := ⟨acronymCrate, [], noFaults⟩)
    acronymSample.discovers isPlainRuntime_default (by decide)
    (renderable_libraryType isLibrary_acronymCrate "HttpServer" (by simp) (by decide))
    (readable_libraryType _ (by decide +kernel)) generated_httpServer
    (hholds.replaceFile noRefusals).2
  rwa [hpath, hname] at hrun

/-- Of two types with different files a run leaves both matchers.  Of two types with the same file
it leaves the second one only. -/
theorem matcher_kept_pairCrate :
    (∀ name ∈ ["Guest", "User"], ({} : BatchSettings).HoldsMatcher
      (({} : BatchSettings).run ⟨pairCrate, [], noFaults⟩).1 [] (libraryType name)) ∧
    ¬({} : BatchSettings).HoldsMatcher
      (({} : BatchSettings).run ⟨acronymCrate, [], noFaults⟩).1 [] (libraryType "HTTPServer") ∧
    ({} : BatchSettings).HoldsMatcher
      (({} : BatchSettings).run ⟨acronymCrate, [], noFaults⟩).1 [] (libraryType "HttpServer") := by
  have hpair := ({} : BatchSettings).matcher_kept_iff (w := ⟨pairCrate, [], noFaults⟩)
    pairSample.lawful pairSample.discovers
  have hacronym := ({} : BatchSettings).matcher_kept_iff (w := ⟨acronymCrate, [], noFaults⟩)
    acronymSample.lawful acronymSample.discovers
  have hkept := (hpair.2.2 _ run_pairCrate).2
  have hlast := (hacronym.2.2 _ run_acronymCrate).2
  have hshares : SharesFile (libraryType "HTTPServer") (libraryType "HttpServer") := by
    decide +kernel
  have hapart : ¬SharesFile (libraryType "Guest") (libraryType "User") := by
    decide +kernel
  refine ⟨List.forall_mem_cons.2 ⟨?_, List.forall_mem_singleton.2 ?_⟩, fun hfirst => ?_, ?_⟩
  · exact (hkept [] (libraryType "Guest") [libraryType "User"] rfl).2
      (List.forall_mem_singleton.2 hapart)
  · exact (hkept [libraryType "Guest"] (libraryType "User") [] rfl).2 (List.forall_mem_nil _)
  · exact (hlast [] (libraryType "HTTPServer") [libraryType "HttpServer"] rfl).1 hfirst
      (libraryType "HttpServer") List.mem_cons_self hshares
  · exact (hlast [libraryType "HTTPServer"] (libraryType "HttpServer") [] rfl).2
      (List.forall_mem_nil _)

/-- The two types are found with different full paths, but a run succeeds with the same path for
both matchers. -/
theorem acronymCrate_collides :
    (({} : BatchSettings).discover acronymCrate []).result =
        .ok [libraryType "HTTPServer", libraryType "HttpServer"] ∧
      (libraryType "HTTPServer").qualifiedName ≠ (libraryType "HttpServer").qualifiedName ∧
      (({} : BatchSettings).run ⟨acronymCrate, [], noFaults⟩).2.result =
        .ok [⟨"src/generated/http_server_matcher.rs"⟩, ⟨"src/generated/http_server_matcher.rs"⟩] :=
  ⟨acronymSample.discovers, by decide +kernel, run_acronymCrate⟩

end BatchSettings

end StructMatch
