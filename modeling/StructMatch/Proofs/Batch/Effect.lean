import StructMatch.Proofs.Batch.Collision
import StructMatch.Proofs.Batch.Emission
import StructMatch.Proofs.Batch.Stability

/-!
# What a run leaves

A batch that fails has generated the matchers of the types before the one that it fails at, and at
that one it has made directories at most, `generatedAll_eq_error`.  So whether a run succeeds or
not, it leaves the matchers of a first part of its types, each as it is rendered from the tree
before the run, and every other file as it was: `run_effect`.  This takes for granted that no
matcher is written over a file that declares one of the types, for then the types after it would be
rendered from something else.
-/

namespace StructMatch.BatchSettings

open FileTree

variable (settings : BatchSettings) {tree tree' tree'' : FileTree} {cwd : Location}
  {types : List StructType} {type : StructType} {w : Workspace}

/-! ## The type that a batch fails at -/

/-- A matcher that is not generated could not be rendered or not be written, and leaves directories
at most. -/
theorem generated_eq_error {cause : GenerateError}
    (h : (settings.generated w type).2 = .error cause) :
    (settings.rendered w.tree w.cwd type = .error cause ∨
      ∃ path failure, cause = .file path failure) ∧
    AddsDirectories w.tree (settings.generated w type).1 := by
  cases hrendered : settings.rendered w.tree w.cwd type with
  | error e =>
      rw [settings.generated_of_error hrendered] at h ⊢
      exact ⟨Or.inl (congrArg Except.error (Except.error.inj h)), .refl _⟩
  | ok artifact =>
      rw [settings.generated_of_ok hrendered] at h ⊢
      cases hreplace : w.tree.replaceFile (w.faults 0) w.cwd (settings.artifactDir type)
          (settings.artifactPath type) artifact.source with
      | mk left outcome =>
          rw [hreplace] at h
          cases outcome with
          | ok => exact absurd h (by simp)
          | error failure =>
              exact ⟨Or.inr ⟨failure.path, failure.error, (Except.error.inj h).symm⟩,
                addsDirectories_of_replaceFile_error hreplace⟩

/-- A batch fails at one type, after it has generated the matchers of those before it. -/
theorem generatedAll_eq_error {e : BatchError} (h : (settings.generatedAll w types).2 = .error e) :
    ∃ before type after cause paths, types = before ++ type :: after ∧
      e = .generating type.qualifiedName cause ∧
      (settings.generatedAll w before).2 = .ok paths ∧
      let midway := w.after before.length (settings.generatedAll w before).1
      (settings.generated midway type).2 = .error cause ∧
      (settings.generatedAll w types).1 = (settings.generated midway type).1 := by
  induction types generalizing w with
  | nil => exact absurd h (by simp [generatedAll, generateAll])
  | cons first rest ih =>
      cases hfirst : (settings.generated w first).2 with
      | error cause =>
          rw [settings.generatedAll_cons_of_error hfirst] at h ⊢
          exact ⟨[], first, rest, cause, [], rfl, (Except.error.inj h).symm, rfl, hfirst, rfl⟩
      | ok path =>
          rw [settings.generatedAll_cons_of_ok hfirst] at h ⊢
          have hrest : (settings.generatedAll (w.after 1 (settings.generated w first).1)
              rest).2 = .error e := by
            cases hothers : (settings.generatedAll
                (w.after 1 (settings.generated w first).1) rest).2 with
            | error other =>
                rw [hothers] at h
                exact h
            | ok paths =>
                rw [hothers] at h
                exact absurd h (by simp [Except.map])
          obtain ⟨before, type, after, cause, paths, rfl, he, hbefore, htype, htree⟩ := ih hrest
          refine ⟨first :: before, type, after, cause, path :: paths, rfl, he, ?_⟩
          rw [settings.generatedAll_cons_of_ok hfirst, hbefore]
          exact ⟨rfl, htype, htree⟩

/-- A batch gets no further than the type for which the device refuses a step. -/
theorem generatedAll_of_refused {before after : List StructType} {paths : List Path}
    (hbefore : (settings.generatedAll w before).2 = .ok paths) (step : ReplacementStep)
    (hrefused : w.faults before.length step ≠ none)
    (hstep : ∀ depth, step ≠ .makeDirectory depth) :
    ∃ cause, (settings.generatedAll w (before ++ type :: after)).2 =
      .error (.generating type.qualifiedName cause) := by
  have happend := settings.generatedAll_append_of_ok hbefore (type :: after)
  cases hgenerated : (settings.generated
      (w.after before.length (settings.generatedAll w before).1) type).2 with
  | ok path =>
      have hfaults := settings.refusals_of_generated hgenerated hstep
      rw [Workspace.faults_after, Nat.zero_add] at hfaults
      exact absurd hfaults hrefused
  | error cause =>
      rw [settings.generatedAll_cons_of_error hgenerated] at happend
      exact ⟨cause, congrArg Prod.snd happend⟩

/-! ## What is left -/

/-- Whether the second tree is what generating the matchers of some types leaves of the first one:
each type can be rendered from the first tree, its file holds what is rendered unless a later type
has the same path, and all other files are as they were. -/
structure Leaves (cwd : Location) (types : List StructType) (tree tree' : FileTree) : Prop where
  written : ∀ before type after, types = before ++ type :: after →
    ∃ artifact, settings.rendered tree cwd type = .ok artifact ∧
      (settings.artifactPath type ∉ after.map settings.artifactPath →
        tree'.readText cwd (settings.artifactPath type) = .ok artifact.source)
  elsewhere : WritesWithin (types.map (settings.artifactPlace cwd)) tree tree'

variable {settings} in
theorem Leaves.addsDirectories (h : settings.Leaves cwd types tree tree')
    (hadds : AddsDirectories tree' tree'') : settings.Leaves cwd types tree tree'' := by
  refine ⟨fun before type after hsplit => ?_, h.elsewhere.trans (hadds.writesWithin _)⟩
  obtain ⟨artifact, hrendered, hread⟩ := h.written before type after hsplit
  exact ⟨artifact, hrendered, fun hlast =>
    (hadds.writesWithin []).readText (by simp) (hread hlast)⟩

/-- A batch that succeeds leaves the matchers of its types, when none has the place of a file that
declares a type. -/
theorem leaves_of_generatedAll {paths : List Path}
    (h : (settings.generatedAll w types).2 = .ok paths)
    (hnames : ∀ type ∈ types, ∀ name ∈ matcherWay type, IsFileName name)
    (hread : ∀ type ∈ types, ∀ declaration, type.declaration? = some declaration →
      declaration.file.location w.cwd ∉ types.map (settings.artifactPlace w.cwd) ∧
        ∃ text, w.tree.readText w.cwd declaration.file = .ok text) :
    settings.Leaves w.cwd types w.tree (settings.generatedAll w types).1 := by
  refine ⟨fun before type after hsplit => ?_, settings.writesWithin_generatedAll w types⟩
  subst hsplit
  have htype : type ∈ before ++ type :: after := by simp
  obtain ⟨between, artifact, hbefore, hrendered, hholds⟩ := settings.generatedAll_append h
  -- what was written before this type leaves its source as it was
  have hsub : before.map (settings.artifactPlace w.cwd) ⊆
      (before ++ type :: after).map (settings.artifactPlace w.cwd) := by
    rw [List.map_append]
    exact List.subset_append_left _ _
  refine ⟨artifact, ?_, fun hlast => (hholds fun hplace => hlast ?_).readText⟩
  · rw [← hrendered, settings.rendered_of_writesWithin (hbefore.mono hsub) (hread type htype)]
  · obtain ⟨other, hother, hsame⟩ := List.mem_map.1 hplace
    have hotherMem : other ∈ before ++ type :: after := by simp [hother]
    rw [settings.artifactPlace_eq_iff w.cwd (hnames other hotherMem) (hnames type htype)] at hsame
    exact List.mem_map.2 ⟨other, hother,
      (settings.artifactPath_eq_iff (hnames other hotherMem) (hnames type htype)).2 hsame⟩

/-- Whether no matcher of the types has the place of a file that declares one of them. -/
def SparesSources (cwd : Location) (types : List StructType) : Prop :=
  ∀ a ∈ types, ∀ b ∈ types, ∀ declaration, b.declaration? = some declaration →
    settings.artifactPlace cwd a ≠ declaration.file.location cwd

/-- The file that declares a discovered type can be read. -/
theorem readText_of_mem_discover (hlawful : tree.Lawful)
    (hdiscover : (settings.discover tree cwd).result = .ok types) (htype : type ∈ types)
    {declaration : Declaration} (hdeclaration : type.declaration? = some declaration) :
    ∃ text, tree.readText cwd declaration.file = .ok text := by
  obtain ⟨root, -, way, text, items, hdeclares⟩ :=
    settings.declares_of_mem_discover hlawful hdiscover htype
  obtain ⟨modules, hmodules⟩ := hdeclares.declaration
  obtain rfl := Option.some.inj (hdeclaration.symm.trans hmodules)
  exact ⟨text, hdeclares.readText hlawful⟩

/-- Matchers that spare the sources leave the file that declares a type as it can be read. -/
theorem readable_of_sparesSources (hlawful : tree.Lawful)
    (hdiscover : (settings.discover tree cwd).result = .ok types)
    (hspares : settings.SparesSources cwd types) (htype : type ∈ types)
    (declaration : Declaration) (hdeclaration : type.declaration? = some declaration) :
    declaration.file.location cwd ∉ types.map (settings.artifactPlace cwd) ∧
      ∃ text, tree.readText cwd declaration.file = .ok text := by
  refine ⟨fun hmem => ?_, settings.readText_of_mem_discover hlawful hdiscover htype hdeclaration⟩
  obtain ⟨other, hother, hplace⟩ := List.mem_map.1 hmem
  exact hspares other hother type htype declaration hdeclaration hplace

/-- The exact effect of a run.  If the discovery fails, nothing is written.  A run that succeeds
returns the paths of the types and leaves their matchers; one that fails leaves those of the types
before the one that it names. -/
theorem run_effect (hlawful : w.tree.Lawful) :
    (∀ e, (settings.discover w.tree w.cwd).result = .error e →
      (settings.run w).1 = w.tree ∧ (settings.run w).2.result = .error e) ∧
    ∀ types, (settings.discover w.tree w.cwd).result = .ok types →
      settings.SparesSources w.cwd types →
      (∀ paths, (settings.run w).2.result = .ok paths →
        paths = types.map settings.artifactPath ∧
          settings.Leaves w.cwd types w.tree (settings.run w).1) ∧
      ∀ e, (settings.run w).2.result = .error e →
        ∃ before type after cause, types = before ++ type :: after ∧
          e = .generating type.qualifiedName cause ∧
          (settings.rendered w.tree w.cwd type = .error cause ∨
            ∃ path failure, cause = .file path failure) ∧
          settings.Leaves w.cwd before w.tree (settings.run w).1 := by
  constructor
  · intro e hdiscover
    unfold run
    simp only [hdiscover, Logged.result_bind, Logged.result_pure, and_self]
  · intro types hdiscover hspares
    obtain ⟨hleft, hresult⟩ : (settings.run w).1 = (settings.generatedAll w types).1 ∧
        (settings.run w).2.result = (settings.generatedAll w types).2 :=
      Prod.mk.inj (settings.run_of_discover hdiscover)
    have hnames := settings.isFileName_matcherWay hlawful hdiscover
    have hread := fun type (htype : type ∈ types) =>
      settings.readable_of_sparesSources hlawful hdiscover hspares htype
    rw [hleft, hresult]
    refine ⟨fun paths hok => ⟨settings.paths_of_generatedAll hok,
      settings.leaves_of_generatedAll hok hnames hread⟩, fun e herror => ?_⟩
    obtain ⟨before, type, after, cause, paths, rfl, he, hbefore, hfails, htree⟩ :=
      settings.generatedAll_eq_error herror
    have hsub : before ⊆ before ++ type :: after := List.subset_append_left _ _
    have hleaves : settings.Leaves w.cwd before w.tree (settings.generatedAll w before).1 := by
      refine settings.leaves_of_generatedAll hbefore (fun type htype => hnames type (hsub htype))
        fun type htype declaration hdeclaration => ?_
      obtain ⟨hplace, htext⟩ := hread type (hsub htype) declaration hdeclaration
      exact ⟨fun hmem => hplace (List.map_subset _ hsub hmem), htext⟩
    obtain ⟨hcause, hadds⟩ := settings.generated_eq_error hfails
    -- the type that fails was rendered from a tree with the same sources
    rw [Workspace.tree_after, Workspace.cwd_after, settings.rendered_of_writesWithin
      (hleaves.elsewhere.mono (List.map_subset _ hsub)) (hread type (by simp))] at hcause
    refine ⟨before, type, after, cause, rfl, he, hcause, ?_⟩
    rw [htree]
    exact hleaves.addsDirectories hadds

/-- A device that lets one file be moved and then no other. -/
def movesOne : Faults
  | 0 => noRefusals
  | n + 1 => immovable n

/-- No matcher of the crate of two types is written over its library. -/
theorem sparesSources_pairCrate :
    ({} : BatchSettings).SparesSources [] [libraryType "Guest", libraryType "User"] := by
  have hplaces : ∀ type ∈ [libraryType "Guest", libraryType "User"],
      ({} : BatchSettings).artifactPlace [] type ≠ (⟨"src/lib.rs"⟩ : Path).location [] := by
    decide +kernel
  intro a ha b hb declaration hdeclaration
  obtain rfl : declaration = ⟨⟨"src/lib.rs"⟩, []⟩ := by
    rcases List.mem_pair.1 hb with rfl | rfl <;> exact (Option.some.inj hdeclaration).symm
  exact hplaces a ha

/-- A run that may move one file fails at the second type of the crate. -/
theorem run_movesOne_pairCrate : ∃ cause,
    (({} : BatchSettings).run ⟨pairCrate, [], movesOne⟩).2.result =
      .error (.generating "crate::User" cause) := by
  have hdiscover : (({} : BatchSettings).discover pairCrate []).result =
      .ok [libraryType "Guest", libraryType "User"] := pairSample.discovers
  have hname : (libraryType "User").qualifiedName = "crate::User" := by decide +kernel
  have hfirst : (({} : BatchSettings).generatedAll ⟨pairCrate, [], movesOne⟩
      [libraryType "Guest"]).2 = .ok [⟨"src/generated/guest_matcher.rs"⟩] := by
    rw [({} : BatchSettings).generatedAll_cons_of_ok (generated_guest movesOne rfl)]
    rfl
  have hrefused : movesOne 1 .rename ≠ none := by decide
  have hsecond : ∃ cause, (({} : BatchSettings).generatedAll ⟨pairCrate, [], movesOne⟩
      ([libraryType "Guest"] ++ [libraryType "User"])).2 =
        .error (.generating (libraryType "User").qualifiedName cause) :=
    ({} : BatchSettings).generatedAll_of_refused hfirst .rename hrefused (by simp)
  obtain ⟨cause, hcause⟩ := hsecond
  rw [hname] at hcause
  have hrun := ({} : BatchSettings).run_of_discover (w := ⟨pairCrate, [], movesOne⟩) hdiscover
  exact ⟨cause, (congrArg Prod.snd hrun).trans hcause⟩

/-- A run of the crate of two types leaves both matchers.  One that may move one file only fails at
the second type and leaves the matcher of the first one. -/
theorem run_effect_pairCrate :
    ({} : BatchSettings).Leaves [] [libraryType "Guest", libraryType "User"] pairCrate
        (({} : BatchSettings).run ⟨pairCrate, [], noFaults⟩).1 ∧
      (∃ cause, (({} : BatchSettings).run ⟨pairCrate, [], movesOne⟩).2.result =
        .error (.generating "crate::User" cause)) ∧
      ({} : BatchSettings).Leaves [] [libraryType "Guest"] pairCrate
        (({} : BatchSettings).run ⟨pairCrate, [], movesOne⟩).1 ∧
      ∃ source, (({} : BatchSettings).run ⟨pairCrate, [], movesOne⟩).1.readText []
        ⟨"src/generated/guest_matcher.rs"⟩ = .ok source := by
  have hdiscover : (({} : BatchSettings).discover pairCrate []).result =
      .ok [libraryType "Guest", libraryType "User"] := pairSample.discovers
  have hpath : ({} : BatchSettings).artifactPath (libraryType "Guest") =
      ⟨"src/generated/guest_matcher.rs"⟩ := by
    decide +kernel
  have hguest : (libraryType "Guest").qualifiedName ≠ "crate::User" := by decide +kernel
  obtain ⟨cause, hfails⟩ := run_movesOne_pairCrate
  have hsucceeds := ({} : BatchSettings).run_effect (w := ⟨pairCrate, [], noFaults⟩)
    pairSample.lawful
  have hstops := ({} : BatchSettings).run_effect (w := ⟨pairCrate, [], movesOne⟩)
    pairSample.lawful
  obtain ⟨before, type, after, other, hsplit, hnamed, -, hleaves⟩ :=
    (hstops.2 _ hdiscover sparesSources_pairCrate).2 _ hfails
  have hname := (BatchError.generating.inj hnamed).1
  -- the type that the run fails at is the second one
  have hbefore : before = [libraryType "Guest"] := by
    rcases before with _ | ⟨first, _ | ⟨second, rest⟩⟩
    · obtain ⟨rfl, -⟩ := List.cons_eq_cons.1 hsplit
      exact absurd hname.symm hguest
    · rw [(List.cons_eq_cons.1 hsplit).1]
    · have hlength := congrArg List.length hsplit
      simp at hlength
  subst hbefore
  obtain ⟨artifact, -, hread⟩ := hleaves.written [] (libraryType "Guest") [] rfl
  rw [hpath] at hread
  exact ⟨((hsucceeds.2 _ hdiscover sparesSources_pairCrate).1 _ run_pairCrate).2, ⟨cause, hfails⟩,
    hleaves, artifact.source, hread List.not_mem_nil⟩

end StructMatch.BatchSettings
