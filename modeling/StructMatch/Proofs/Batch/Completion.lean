import StructMatch.Proofs.Batch.Effect
import StructMatch.Proofs.Batch.Introspection

/-!
# Types that stop a batch

A batch ends at the first type whose matcher cannot be rendered.  If all types are of the kind that
can be, only the file system can stop a batch, `stops_only_at_unrenderable`.  Scans report types of
the other kind as well, and any one of them keeps the matchers of all types after it from being
written: `stopped_by_scanned_type`.
-/

namespace StructMatch

open Source Text Code FileTree

namespace BatchSettings

variable (settings : BatchSettings) {tree : FileTree} {cwd : Location} {type : StructType}

/-! ## The end of a batch -/

theorem orphansAmong_error {expected : List Path} {files : List (Location × Content)}
    {e : BatchError} (h : settings.orphansAmong expected files = .error e) :
    ∃ path cause, e = .unreadable path cause := by
  induction files with
  | nil => exact absurd h (by simp [orphansAmong])
  | cons file files ih =>
      obtain ⟨way, content⟩ := file
      cases hmay : settings.mayBeOrphan expected way with
      | false =>
          rw [settings.orphansAmong_cons_of_neg hmay] at h
          exact ih h
      | true =>
          rw [settings.orphansAmong_cons_of_pos hmay] at h
          cases content with
          | bytes bytes => exact ⟨_, _, (Except.error.inj h).symm⟩
          | text text =>
              cases hrest : settings.orphansAmong expected files with
              | error other =>
                  rw [hrest] at h
                  exact ih (hrest.trans h)
              | ok reports =>
                  rw [hrest] at h
                  exact absurd h (by simp [Except.map])

theorem orphans_error {expected : List Path} {e : BatchError}
    (h : settings.orphans tree cwd expected = .error e) :
    ∃ path cause, e = .unreadable path cause := by
  unfold orphans at h
  split at h
  · exact settings.orphansAmong_error h
  · exact absurd h (by simp)

/-- Reports fail at a type that cannot be rendered, or at a file that cannot be read. -/
theorem reportsFor_error {types : List StructType} {e : BatchError}
    (h : (settings.reportsFor tree cwd types).result = .error e) :
    (∃ path cause, e = .unreadable path cause) ∨
      ∃ type ∈ types, ∃ cause, settings.rendered tree cwd type = .error cause ∧
        e = .rendering type.qualifiedName cause := by
  induction types with
  | nil => exact absurd h (by simp [reportsFor])
  | cons type rest ih =>
      cases hrendered : settings.rendered tree cwd type with
      | error cause =>
          rw [settings.reportsFor_cons_of_error hrendered] at h
          exact .inr ⟨type, List.mem_cons_self, cause, hrendered, (Except.error.inj h).symm⟩
      | ok artifact =>
          rw [settings.reportsFor_cons_of_ok hrendered] at h
          cases hstatus : statusOf tree cwd artifact with
          | error cause =>
              rw [hstatus] at h
              exact .inl ⟨_, cause, (Except.error.inj h).symm⟩
          | ok status =>
              rw [hstatus] at h
              cases hothers : (settings.reportsFor tree cwd rest).result with
              | ok reports =>
                  rw [hothers] at h
                  exact absurd h (by simp [Except.map])
              | error other =>
                  rw [hothers] at h
                  rcases ih (hothers.trans h) with hunreadable | ⟨found, hfound, hcause⟩
                  · exact .inl hunreadable
                  · exact .inr ⟨found, List.mem_cons_of_mem _ hfound, hcause⟩

/-- A check of discovered types fails at one that cannot be rendered, or at a file that cannot be
read. -/
theorem check_error {types : List StructType} {e : BatchError}
    (hdiscover : (settings.discover tree cwd).result = .ok types)
    (h : (settings.check tree cwd).result = .error e) :
    (∃ path cause, e = .unreadable path cause) ∨
      ∃ type ∈ types, ∃ cause, settings.rendered tree cwd type = .error cause ∧
        e = .rendering type.qualifiedName cause := by
  rw [settings.check_of_discover hdiscover] at h
  cases hreports : (settings.reportsFor tree cwd types).result with
  | error other =>
      rw [hreports] at h
      rw [← Except.error.inj h]
      exact settings.reportsFor_error hreports
  | ok reports =>
      simp only [hreports] at h
      cases horphans : settings.orphans tree cwd (reports.map (·.file)) with
      | error other =>
          rw [horphans] at h
          exact .inl (settings.orphans_error (horphans.trans h))
      | ok orphans =>
          rw [horphans] at h
          exact absurd h (by simp [Except.map])

/-- After a run every discovered type has its file. -/
theorem exists_readText_of_run {w : Workspace} {types : List StructType} {paths : List Path}
    (hlawful : w.tree.Lawful) (hdiscover : (settings.discover w.tree w.cwd).result = .ok types)
    (hrun : (settings.run w).2.result = .ok paths) (htype : type ∈ types) :
    ∃ text, (settings.run w).1.readText w.cwd (settings.artifactPath type) = .ok text := by
  obtain ⟨htree, hgenerated⟩ := settings.generatedAll_of_run hdiscover hrun
  have hnames := settings.isFileName_matcherWay hlawful hdiscover
  -- the file holds the matcher of the last type that has the same one
  obtain ⟨before, last, after, rfl, hplace, hlast⟩ :=
    exists_last (settings.artifactPlace w.cwd) (List.mem_map_of_mem htype)
  obtain ⟨tree, artifact, -, -, hholds⟩ := settings.generatedAll_append hgenerated
  have hpath : settings.artifactPath last = settings.artifactPath type :=
    (settings.artifactPath_eq_iff (hnames last (by simp)) (hnames type htype)).2
      ((settings.artifactPlace_eq_iff w.cwd (hnames last (by simp)) (hnames type htype)).1 hplace)
  rw [htree, ← hpath]
  rw [← hplace] at hlast
  exact ⟨artifact.source, (hholds hlast).readText⟩

/-- What can stop a batch, if the runtime is named by words.  A discovered type is rendered if
nothing about it keeps it from that, and otherwise its matcher is refused for that reason.  So a
check fails only at a type of the other kind, or at a file that cannot be read, and a run only at a
type of the other kind, as it is found at that time, or at a file that cannot be written.  After a
run that succeeds every type has its file. -/
theorem stops_only_at_unrenderable {w : Workspace} {types : List StructType}
    (hlawful : w.tree.Lawful) (hruntime : IsPlainRuntime settings.runtime)
    (hdiscover : (settings.discover w.tree w.cwd).result = .ok types) :
    (∀ type ∈ types, ∀ tree,
      (Renderable tree w.cwd type →
        ∃ artifact, settings.rendered tree w.cwd type = .ok artifact) ∧
      (type.name ∉ ["self", "super", "crate"] → ¬ Renderable tree w.cwd type →
        settings.Refuses tree w.cwd type)) ∧
    (∀ e, (settings.check w.tree w.cwd).result = .error e →
      (∃ path cause, e = .unreadable path cause) ∨
      ∃ type ∈ types, ¬ Renderable w.tree w.cwd type ∧
        ∃ cause, e = .rendering type.qualifiedName cause) ∧
    (∀ e, (settings.run w).2.result = .error e →
      ∃ before type after cause, types = before ++ type :: after ∧
        e = .generating type.qualifiedName cause ∧
        ((∃ path failure, cause = .file path failure) ∨
          ¬ Renderable (settings.generatedAll w before).1 w.cwd type ∧
            (settings.SparesSources w.cwd types → ¬ Renderable w.tree w.cwd type))) ∧
    ∀ paths, (settings.run w).2.result = .ok paths → ∀ type ∈ types,
      ∃ text, (settings.run w).1.readText w.cwd (settings.artifactPath type) = .ok text := by
  have hname : ∀ type ∈ types, isIdentifier type.name.toList = true := by
    intro type htype
    obtain ⟨root, -, way, text, items, hdeclares⟩ :=
      settings.declares_of_mem_discover hlawful hdiscover htype
    exact hdeclares.isIdentifier
  have hnot : ∀ type ∈ types, ∀ tree cause, settings.rendered tree w.cwd type = .error cause →
      ¬ Renderable tree w.cwd type := by
    intro type htype tree cause herror hrenderable
    obtain ⟨artifact, hok⟩ :=
      (settings.rendered_or_refused hruntime (hname type htype)).1 hrenderable
    exact absurd (herror.symm.trans hok) (by simp)
  refine ⟨fun type htype tree => settings.rendered_or_refused hruntime (hname type htype),
    fun e herror => ?_, fun e herror => ?_, fun paths hrun type htype =>
    settings.exists_readText_of_run hlawful hdiscover hrun htype⟩
  · rcases settings.check_error hdiscover herror with
      hunreadable | ⟨type, htype, cause, hcause, rfl⟩
    · exact .inl hunreadable
    · exact .inr ⟨type, htype, hnot type htype _ cause hcause, cause, rfl⟩
  · have hresult : (settings.run w).2.result = (settings.generatedAll w types).2 :=
      (Prod.mk.inj (settings.run_of_discover hdiscover)).2
    obtain ⟨before, type, after, cause, paths, rfl, he, -, hfails, -⟩ :=
      settings.generatedAll_eq_error (hresult.symm.trans herror)
    have htype : type ∈ before ++ type :: after := by simp
    refine ⟨before, type, after, cause, rfl, he, ?_⟩
    rcases (settings.generated_eq_error hfails).1 with hcause | hfile
    · refine .inr ⟨hnot type htype _ cause hcause, fun hspares => hnot type htype _ cause ?_⟩
      -- the types before this one have not touched its source
      rw [← hcause, Workspace.tree_after, Workspace.cwd_after, settings.rendered_of_writesWithin
        ((settings.writesWithin_generatedAll w before).mono
          (List.map_subset _ (List.subset_append_left _ _)))
        (settings.readable_of_sparesSources hlawful hdiscover hspares htype)]
    · exact .inl hfile

/-- The type of a crate is rendered, and has its file after a run. -/
theorem rendered_userCrate :
    (∃ artifact, ({} : BatchSettings).rendered userCrate [] userType = .ok artifact) ∧
      ∃ text, (({} : BatchSettings).run ⟨userCrate, [], noFaults⟩).1.readText []
        (({} : BatchSettings).artifactPath userType) = .ok text := by
  have h := ({} : BatchSettings).stops_only_at_unrenderable (w := ⟨userCrate, [], noFaults⟩)
    userSample.lawful isPlainRuntime_default userSample.discovers
  exact ⟨(h.1 userType List.mem_cons_self userCrate).1 renderable_userCrate,
    h.2.2.2 _ run_userCrate userType List.mem_cons_self⟩

/-- A crate in which a struct exists in two forms, of which the first has parameters. -/
def parametricCrate : FileTree :=
  crateOf <| "#[cfg(feature = \"generic\")] pub struct Wrapper<T> \x7b value: T \x7d\n" ++
    "#[cfg(not(feature = \"generic\"))] pub struct Wrapper \x7b value: u8 \x7d"

/-- A crate with a struct whose only field has no name. -/
def namelessCrate : FileTree := crateOf "pub struct Padding \x7b _: u8 \x7d"

theorem isLibrary_parametricCrate : IsLibrary ⟨"src/"⟩
    ("#[cfg(feature = \"generic\")] pub struct Wrapper<T> \x7b value: T \x7d\n" ++
      "#[cfg(not(feature = \"generic\"))] pub struct Wrapper \x7b value: u8 \x7d")
    [("Wrapper", .error (.generic "crate::Wrapper"))] := by
  decide +kernel

theorem isLibrary_namelessCrate : IsLibrary ⟨"src/"⟩ "pub struct Padding \x7b _: u8 \x7d"
    [("Padding", .ok [⟨"_", "u8"⟩])] := by
  decide +kernel

/-- A first type that cannot be rendered stops a run and a check for the same reason. -/
theorem stopped_at_first {w : Workspace} {rest : List StructType} {cause : GenerateError}
    (hdiscover : (settings.discover w.tree w.cwd).result = .ok (type :: rest))
    (h : settings.rendered w.tree w.cwd type = .error cause) :
    (settings.run w).2.result = .error (.generating type.qualifiedName cause) ∧
      (settings.check w.tree w.cwd).result = .error (.rendering type.qualifiedName cause) := by
  constructor
  · have hfails : (settings.generated w type).2 = .error cause := by
      rw [settings.generated_of_error h]
    have hrun := settings.run_of_discover hdiscover
    rw [settings.generatedAll_cons_of_error hfails] at hrun
    exact (Prod.mk.inj hrun).2
  · rw [settings.check_of_discover hdiscover, settings.reportsFor_cons_of_error h]

/-- A raw name is reserved as a plain one. -/
theorem rendered_rawCrate : ({} : BatchSettings).rendered rawCrate [] (libraryType "type") =
    .error (.malformed "crate::type") := by
  have hfields : rawCrate.fieldsOf [] (libraryType "type") =
      .error (.notFound "type" ⟨"src/lib.rs"⟩) :=
    IsLibrary.fieldsOf isLibrary_rawCrate (hasLibrary_crateOf _) List.mem_cons_self
  have hproperties : (GeneratorOptions.propertiesFor (rawCrate.fieldsOf [])
      (libraryType "type")).result = .ok [] :=
    propertiesFor_of_notFound hfields
  rw [({} : BatchSettings).rendered_of_propertiesFor hproperties,
    ({} : BatchSettings).render_of_isReserved isPlainRuntime_default (by decide)
      (List.forall_mem_nil _) (List.forall_mem_nil _) (by decide) (by decide)]
  rfl

/-- The fields are looked up by the name of the struct, and the form with parameters comes first. -/
theorem rendered_parametricCrate :
    ({} : BatchSettings).rendered parametricCrate [] (libraryType "Wrapper") =
      .error (.generic "crate::Wrapper") :=
  ({} : BatchSettings).rendered_of_generic
    (IsLibrary.fieldsOf isLibrary_parametricCrate (hasLibrary_crateOf _) List.mem_cons_self)

theorem rendered_namelessCrate :
    ({} : BatchSettings).rendered namelessCrate [] (libraryType "Padding") =
      .error (.invalidName "crate::Padding") := by
  have hfields : namelessCrate.fieldsOf [] (libraryType "Padding") = .ok [⟨"_", "u8"⟩] :=
    IsLibrary.fieldsOf isLibrary_namelessCrate (hasLibrary_crateOf _) List.mem_cons_self
  have hproperties : (GeneratorOptions.propertiesFor (namelessCrate.fieldsOf [])
      (libraryType "Padding")).result = .ok ["_"] :=
    propertiesFor_of_ok hfields
  rw [({} : BatchSettings).rendered_of_propertiesFor hproperties,
    ({} : BatchSettings).render_of_mem_pathWords isPlainRuntime_default (by decide) (by decide)
      List.mem_cons_self (by decide)]
  rfl

/-- Scans report a struct with a raw name, one of the name of another struct with parameters, and
one with a field without a name.  Each of them stops the batch, whether it runs or checks. -/
theorem stopped_by_scanned_type :
    (({} : BatchSettings).discover rawCrate []).result = .ok [libraryType "type"] ∧
      (({} : BatchSettings).run ⟨rawCrate, [], noFaults⟩).2.result =
        .error (.generating "crate::type" (.malformed "crate::type")) ∧
      (({} : BatchSettings).check rawCrate []).result =
        .error (.rendering "crate::type" (.malformed "crate::type")) ∧
      (({} : BatchSettings).discover parametricCrate []).result = .ok [libraryType "Wrapper"] ∧
      (({} : BatchSettings).run ⟨parametricCrate, [], noFaults⟩).2.result =
        .error (.generating "crate::Wrapper" (.generic "crate::Wrapper")) ∧
      (({} : BatchSettings).check parametricCrate []).result =
        .error (.rendering "crate::Wrapper" (.generic "crate::Wrapper")) ∧
      (({} : BatchSettings).discover namelessCrate []).result = .ok [libraryType "Padding"] ∧
      (({} : BatchSettings).run ⟨namelessCrate, [], noFaults⟩).2.result =
        .error (.generating "crate::Padding" (.invalidName "crate::Padding")) ∧
      (({} : BatchSettings).check namelessCrate []).result =
        .error (.rendering "crate::Padding" (.invalidName "crate::Padding")) := by
  have hraw : (({} : BatchSettings).discover rawCrate []).result = .ok [libraryType "type"] :=
    IsLibrary.discover isLibrary_rawCrate (hasLibrary_crateOf _) (List.pairwise_singleton _ _) {}
      rfl rfl
  have hparametric : (({} : BatchSettings).discover parametricCrate []).result =
      .ok [libraryType "Wrapper"] :=
    IsLibrary.discover isLibrary_parametricCrate (hasLibrary_crateOf _)
      (List.pairwise_singleton _ _) {} rfl rfl
  have hnameless : (({} : BatchSettings).discover namelessCrate []).result =
      .ok [libraryType "Padding"] :=
    IsLibrary.discover isLibrary_namelessCrate (hasLibrary_crateOf _)
      (List.pairwise_singleton _ _) {} rfl rfl
  obtain ⟨hrunRaw, hcheckRaw⟩ := ({} : BatchSettings).stopped_at_first
    (w := ⟨rawCrate, [], noFaults⟩) hraw rendered_rawCrate
  obtain ⟨hrunParametric, hcheckParametric⟩ := ({} : BatchSettings).stopped_at_first
    (w := ⟨parametricCrate, [], noFaults⟩) hparametric rendered_parametricCrate
  obtain ⟨hrunNameless, hcheckNameless⟩ := ({} : BatchSettings).stopped_at_first
    (w := ⟨namelessCrate, [], noFaults⟩) hnameless rendered_namelessCrate
  exact ⟨hraw, hrunRaw, hcheckRaw, hparametric, hrunParametric, hcheckParametric, hnameless,
    hrunNameless, hcheckNameless⟩

end BatchSettings

end StructMatch
