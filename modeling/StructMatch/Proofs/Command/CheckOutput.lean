import StructMatch.Proofs.Batch.Completion
import StructMatch.Proofs.Command.Repair
import StructMatch.Proofs.Console.JsonReading
import StructMatch.Proofs.Path.Remainder

/-!
# What a check writes as a document

A call that checks and is asked for a document writes that document and nothing beside it, whatever
the names and paths in it are.  Read as such, it gives back the reports in their order with the
paths as they are shown, and its two counts are those of the reports: `ofJson?_document`.  A call
that does not come to the reports writes no results.

The code of a call does not depend on how its results are shown, and it is zero exactly if the
project is found, the check of it gives reports, and all of them are up to date.  A call that fails
before that has the code 1, except where the rendering of a matcher ends the program on the spot:
`check_writes_document`.  A struct with the field `_` does that, `check_ends_at_padding`, and with a
runtime that is named by words only fields of this kind do, `exists_field_of_endsFatally`.
-/

namespace StructMatch

open Text Code FileTree

/-! ## Paths as they are shown -/

/-- Whether a text shows a path from a directory on, if the path lies inside of it, and else as it
was written. -/
structure ShowsPath (root path : Path) (text : String) : Prop where
  inside : ∀ left, path.components = root.components ++ left → (⟨text⟩ : Path).components = left
  outside : ¬ root.components <+: path.components → text = path.text

namespace Command

open Console

theorem Project.showsPath {project : Project} (hroot : project.root.isAbsolute = true)
    (path : Path) : ShowsPath project.root path (project.shown path) := by
  refine ⟨fun left hleft => ?_, fun hnot => ?_⟩
  · obtain ⟨rest, hrest, hcomponents⟩ := Path.components_after?_of_ne_nil
      (Path.components_ne_nil_of_isAbsolute hroot) hleft
    rw [shown, hrest, Option.getD_some]
    exact hcomponents
  · rw [shown, Path.after?_eq_none_iff.2 hnot, Option.getD_none]

/-! ## Documents of checks -/

/-- A field of a record by its name. -/
def field? (name : String) : Json → Option Json
  | .record fields => fields.lookup name
  | _ => none

def text? : Json → Option String
  | .text text => some text
  | _ => none

def count? : Json → Option Nat
  | .count n => some n
  | _ => none

def items? : Json → Option (List Json)
  | .list items => some items
  | _ => none

/-- The status of a name. -/
def statusOfName? (name : String) : Option CheckStatus :=
  [.upToDate, .stale, .missing, .orphaned].find? fun status => statusName status = name

/-- The type, the file and the status that an entry of a document tells. -/
def reportOf? (json : Json) : Option (String × String × CheckStatus) := do
  let type ← text? (← field? "type_name" json)
  let file ← text? (← field? "file" json)
  let status ← statusOfName? (← text? (← field? "status" json))
  some (type, file, status)

/-- What the document of a check tells. -/
structure CheckDocument where
  upToDate : Nat
  problems : Nat
  files : List (String × String × CheckStatus)
deriving DecidableEq

/-- What a document tells, if it is that of a check. -/
def CheckDocument.ofJson? (json : Json) : Option CheckDocument := do
  let upToDate ← count? (← field? "up_to_date" json)
  let problems ← count? (← field? "problems" json)
  let files ← items? (← field? "files" json)
  some ⟨upToDate, problems, ← files.mapM reportOf?⟩

theorem statusOfName?_statusName (status : CheckStatus) :
    statusOfName? (statusName status) = some status := by
  cases status <;> decide

theorem reportOf?_record (type file : String) (status : CheckStatus) :
    reportOf? (.record [("type_name", .text type), ("file", .text file),
      ("status", .text (statusName status))]) = some (type, file, status) := by
  simp [reportOf?, field?, text?, List.lookup_cons, statusOfName?_statusName]

/-- The document of a summary tells what the summary does. -/
theorem CheckDocument.ofJson?_document (summary : CheckSummary) :
    ofJson? summary.document = some ⟨summary.upToDate, summary.problems, summary.files⟩ := by
  have hfiles (files : List (String × String × CheckStatus)) : files.mapM some = some files := by
    induction files with
    | nil => rfl
    | cons file files ih => rw [List.mapM_cons, ih]; rfl
  simp [ofJson?, CheckSummary.document, field?, count?, items?, List.lookup_cons, Function.comp_def,
    reportOf?_record, hfiles]

/-! ## How a check ends -/

variable {tree : FileTree} {cwd : Location} {source : SourceOptions} {p : Presentation}
  {project : Project} {reports : List CheckReport}

/-- The counts of a summary are those of its files. -/
theorem CheckSummary.upToDate_add_problems (summary : CheckSummary) :
    summary.upToDate + summary.problems = summary.files.length :=
  Nat.sub_add_cancel List.countP_le_length

/-- What a call that checks writes and answers once it has its reports. -/
theorem check_of_reports (hproject : Project.find tree cwd = .ok project)
    (hreports : ((project.settings source).check tree cwd).result = .ok reports) :
    let summary := CheckSummary.ofReports project reports
    (check tree cwd source p).code = (if summary.problems = 0 then 0 else 1) ∧
      (check tree cwd source p).out = p.heading "Checking generated matchers" ++
        p.results summary.table summary.document ++
          if summary.problems = 0 then
            p.remark .success
              ("All " ++ toString summary.upToDate ++ " matchers are up to date")
          else
            p.remark .info "Run 'beanmatch-build generate' to bring them up to date" := by
  intro summary
  unfold check
  simp only [hproject, hreports]
  split <;> exact ⟨rfl, rfl⟩

/-- A check fails at a directory that is none, at a file that cannot be read, or at a type that
cannot be rendered. -/
theorem check_error_cases {settings : BatchSettings} {e : BatchError}
    (h : (settings.check tree cwd).result = .error e) :
    (∃ root ∈ settings.effectiveScanPaths, e = .notADirectory root) ∨
      (∃ path cause, e = .unreadable path cause) ∨
      ∃ types, (settings.discover tree cwd).result = .ok types ∧ ∃ type ∈ types, ∃ cause,
        settings.rendered tree cwd type = .error cause ∧
          e = .rendering type.qualifiedName cause := by
  cases hdiscover : (settings.discover tree cwd).result with
  | ok types => exact .inr ((settings.check_error hdiscover h).imp_right fun h => ⟨types, rfl, h⟩)
  | error other =>
      have hother : (settings.check tree cwd).result = .error other := by
        rw [BatchSettings.check, Logged.result_bind, hdiscover]
        rfl
      obtain rfl : e = other := Except.error.inj (h.symm.trans hother)
      exact .inl (settings.discover_error hdiscover)

/-- Whether the rendering of a matcher ends a check on the spot. -/
def EndsFatally (settings : BatchSettings) (tree : FileTree) (cwd : Location) : Prop :=
  ∃ type cause, (settings.check tree cwd).result = .error (.rendering type cause) ∧
    cause.isFatal = true

/-- The code of the failure of a check. -/
theorem code_of_check_error {settings : BatchSettings} {e : BatchError}
    (h : (settings.check tree cwd).result = .error e) :
    EndsFatally settings tree cwd ∧ (CallError.batch e).code = 101 ∨
      ¬ EndsFatally settings tree cwd ∧ (CallError.batch e).code = 1 := by
  have hfatal : EndsFatally settings tree cwd ↔
      ∃ type cause, e = .rendering type cause ∧ cause.isFatal = true := by
    simp only [EndsFatally, h, Except.error.injEq]
  rw [hfatal]
  obtain ⟨root, -, rfl⟩ | ⟨path, cause, rfl⟩ | ⟨types, -, type, -, cause, -, rfl⟩ :=
    check_error_cases h
  · exact .inr ⟨by simp, rfl⟩
  · exact .inr ⟨by simp, rfl⟩
  · cases hcause : cause.isFatal <;> simp [CallError.code, hcause]

/-- A project that is not found, or whose configuration is wrong, is a failure of the usual kind. -/
theorem Project.code_of_find_error {e : CallError} (h : Project.find tree cwd = .error e) :
    e.code = 1 := by
  unfold find at h
  split at h
  · rw [← Except.error.inj h]
    rfl
  · split at h
    · rw [← Except.error.inj h]
      rfl
    · exact absurd h (by simp)

/-- A call that does not come to its reports writes no results. -/
theorem check_of_no_reports (h : ∀ project reports, Project.find tree cwd = .ok project →
      ((project.settings source).check tree cwd).result ≠ .ok reports) :
    ((check tree cwd source p).out = "" ∨
        (check tree cwd source p).out = p.heading "Checking generated matchers") ∧
      ((∃ project, Project.find tree cwd = .ok project ∧
          EndsFatally (project.settings source) tree cwd) ∧ (check tree cwd source p).code = 101 ∨
        (∀ project, Project.find tree cwd = .ok project →
          ¬ EndsFatally (project.settings source) tree cwd) ∧
          (check tree cwd source p).code = 1) := by
  cases hproject : Project.find tree cwd with
  | error e =>
      have hcheck : check tree cwd source p = .ofError e "" "" [] := by
        rw [check, hproject]
      rw [hcheck]
      exact ⟨.inl rfl, .inr ⟨by simp, Project.code_of_find_error hproject⟩⟩
  | ok project =>
      cases hresult : ((project.settings source).check tree cwd).result with
      | ok reports => exact absurd hresult (h project reports hproject)
      | error e =>
          have hcheck : check tree cwd source p = .ofError (.batch e)
              (p.heading "Checking generated matchers") ""
              (p.shownLog ((project.settings source).check tree cwd).log) := by
            simp only [check, hproject, hresult]
          rw [hcheck]
          refine ⟨.inr rfl, ?_⟩
          simpa [Outcome.ofError] using code_of_check_error hresult

/-- Headings and remarks are only written where remarks are shown. -/
theorem Presentation.heading_eq_empty (h : p.showsRemarks = false) (text : String) :
    p.heading text = "" := by
  rw [heading, h]
  rfl

theorem Presentation.remark_eq_empty (h : p.showsRemarks = false) (tone : Tone) (text : String) :
    p.remark tone text = "" := by
  rw [remark, h]
  rfl

/-- Without remarks, what a call writes once it has its reports is their table or document. -/
theorem check_out_of_reports (hremarks : p.showsRemarks = false)
    (hproject : Project.find tree cwd = .ok project)
    (hreports : ((project.settings source).check tree cwd).result = .ok reports) :
    (check tree cwd source p).out = p.results (CheckSummary.ofReports project reports).table
      (CheckSummary.ofReports project reports).document := by
  rw [(check_of_reports hproject hreports).2, Presentation.heading_eq_empty hremarks,
    Presentation.remark_eq_empty hremarks, Presentation.remark_eq_empty hremarks, ite_self,
    String.empty_append, String.append_empty]

theorem check_out_of_no_reports (hremarks : p.showsRemarks = false)
    (h : ∀ project reports, Project.find tree cwd = .ok project →
      ((project.settings source).check tree cwd).result ≠ .ok reports) :
    (check tree cwd source p).out = "" := by
  obtain hout | hout := (check_of_no_reports (p := p) h).1
  · exact hout
  · rw [hout, Presentation.heading_eq_empty hremarks]

/-- A quiet call that checks writes no results. -/
theorem check_out_of_quiet (hquiet : p.quiet = true) : (check tree cwd source p).out = "" := by
  have hremarks : p.showsRemarks = false := by
    rw [Presentation.showsRemarks, hquiet]
    rfl
  by_cases h : ∀ project reports, Project.find tree cwd = .ok project →
      ((project.settings source).check tree cwd).result ≠ .ok reports
  · exact check_out_of_no_reports hremarks h
  · push Not at h
    obtain ⟨project, reports, hproject, hreports⟩ := h
    rw [check_out_of_reports hremarks hproject hreports, Presentation.results, if_pos hquiet]

/-- How results are shown makes no difference to the code. -/
theorem check_code_eq (p p' : Presentation) :
    (check tree cwd source p).code = (check tree cwd source p').code := by
  unfold check
  cases Project.find tree cwd with
  | error e => rfl
  | ok project =>
      dsimp only
      cases ((project.settings source).check tree cwd).result with
      | error e => rfl
      | ok reports =>
          dsimp only
          split <;> rfl

section Calls

variable {w : Workspace} {arguments : List String}

/-- A call that checks and is asked for a document. -/
theorem check_writes_document (hparse : Request.parse? arguments = some (.run .check source p)) :
    let outcome := (execute w arguments).2
    let result (project : Project) := ((project.settings source).check w.tree w.cwd).result
    (p.format = .json → p.quiet = false →
      (∀ project reports, Project.find w.tree w.cwd = .ok project →
        result project = .ok reports →
        (∃ json document, outcome.out = json.render ++ "\n" ∧ Json.read? outcome.out = some json ∧
          CheckDocument.ofJson? json = some document ∧
          document.files = reports.map (fun report =>
            (report.typeName, project.shown report.file, report.status)) ∧
          document.problems = document.files.countP (fun file => file.2.2 ≠ .upToDate) ∧
          document.upToDate + document.problems = document.files.length) ∧
        ∀ report ∈ reports, ShowsPath project.root report.file (project.shown report.file)) ∧
      ((∀ project reports, Project.find w.tree w.cwd = .ok project →
          result project ≠ .ok reports) →
        outcome.out = "" ∧ (outcome.code = 1 ↔ ∀ project,
          Project.find w.tree w.cwd = .ok project →
            ¬ EndsFatally (project.settings source) w.tree w.cwd))) ∧
    (outcome.code = 0 ↔ ∃ project reports, Project.find w.tree w.cwd = .ok project ∧
      result project = .ok reports ∧ ∀ report ∈ reports, report.status = .upToDate) ∧
    (p.quiet = true → outcome.out = "") ∧
    ∀ arguments' p', Request.parse? arguments' = some (.run .check source p') →
      (execute w arguments').2.code = outcome.code := by
  intro outcome result
  have houtcome : outcome = check w.tree w.cwd source p := by
    rw [show outcome = (execute w arguments).2 from rfl, execute_check hparse]
  rw [houtcome]
  refine ⟨fun hjson hquiet => ?_, ?_, check_out_of_quiet, fun arguments' p' hparse' => ?_⟩
  · have hremarks : p.showsRemarks = false := by
      rw [Presentation.showsRemarks, hjson]
      simp
    refine ⟨fun project reports hproject hreports => ⟨?_, fun report _ => ?_⟩, fun h => ?_⟩
    · let summary := CheckSummary.ofReports project reports
      have hout : (check w.tree w.cwd source p).out = summary.document.render ++ "\n" := by
        rw [check_out_of_reports hremarks hproject hreports, Presentation.results, hquiet, hjson]
        rfl
      refine ⟨summary.document, ⟨summary.upToDate, summary.problems, summary.files⟩, hout, ?_,
        CheckDocument.ofJson?_document summary, rfl, rfl, summary.upToDate_add_problems⟩
      rw [hout, Json.read?_render]
    · exact Project.showsPath (Project.isAbsolute_root hproject) report.file
    · refine ⟨check_out_of_no_reports hremarks h, ?_⟩
      obtain ⟨⟨project, hproject, hends⟩, hcode⟩ | ⟨hnone, hcode⟩ := (check_of_no_reports h).2
      · rw [hcode]
        exact ⟨fun hone => absurd hone (by decide), fun hnone => absurd hends (hnone _ hproject)⟩
      · exact ⟨fun _ => hnone, fun _ => hcode⟩
  · rw [check_code_eq_zero_iff]
    exact exists_congr fun project => exists_and_left.symm
  · rw [execute_check hparse']
    exact check_code_eq p' p

/-- A check of the first project reports that the matcher of the type is missing. -/
theorem missing_userProject : (topSettings.check userProject []).result =
    .ok [⟨"crate::User", ⟨"/src/generated/user_matcher.rs"⟩, .missing⟩] := by
  have hfields : userProject.fieldsOf [] topType = .ok [] := by decide +kernel
  have hrendered := (topSettings.rendered_or_refused isPlainRuntime_default (by decide)).1
    (.of_fieldsOf hfields (by decide) (by simp))
  rw [topSettings.check_of_discover generates_userProject.2.1,
    topSettings.reportsFor_of_notFound fun type htype => ?_]
  · decide +kernel
  · obtain rfl := List.mem_singleton.1 htype
    exact ⟨hrendered, by decide +kernel⟩

/-- A check of a project without its matcher, read back from its document. -/
theorem check_writes_document_userProject :
    let outcome := (execute ⟨userProject, [], noFaults⟩ ["check", "--output", "json"]).2
    outcome.code ≠ 0 ∧ ∃ json, outcome.out = json.render ++ "\n" ∧
      Json.read? outcome.out = some json ∧ ∃ document, CheckDocument.ofJson? json = some document ∧
        document.files = [("crate::User", "src/generated/user_matcher.rs", .missing)] ∧
        document.problems = 1 := by
  have hparse : Request.parse? ["check", "--output", "json"] =
      some (.run .check {} ⟨.json, false, false, false⟩) := by
    decide +kernel
  have hproject : Project.find userProject [] = .ok topProject := generates_userProject.1
  obtain ⟨hjson, hcode, -⟩ := check_writes_document (w := ⟨userProject, [], noFaults⟩) hparse
  obtain ⟨⟨json, document, hout, hread, hdocument, hfiles, hproblems, -⟩, -⟩ :=
    (hjson rfl rfl).1 topProject _ hproject missing_userProject
  refine ⟨fun hzero => ?_, json, hout, hread, document, hdocument, ?_, ?_⟩
  · obtain ⟨project, reports, hfound, hresult, hall⟩ := hcode.1 hzero
    obtain rfl := Except.ok.inj (hproject.symm.trans hfound)
    obtain rfl := Except.ok.inj (missing_userProject.symm.trans hresult)
    exact absurd (hall _ List.mem_cons_self) (by decide)
  · rw [hfiles]
    decide +kernel
  · rw [hproblems, hfiles]
    decide +kernel

end Calls

/-- A project with a struct whose only field has no name. -/
def paddingProject : FileTree :=
  ⟨[(["Cargo.toml"], .file (.text "")), (["src"], .directory),
    (["src", "lib.rs"], .file (.text "pub struct Padding \x7b _: u8 \x7d"))]⟩

/-- The type that is found there. -/
def paddingType : StructType := ⟨"Padding", .root, some ⟨⟨"/src/lib.rs"⟩, []⟩⟩

/-- A check of the project ends on the spot, without a document and with a code of its own. -/
theorem check_ends_at_padding :
    Request.parse? ["check", "--output", "json"] =
        some (.run .check {} ⟨.json, false, false, false⟩) ∧
      Project.find paddingProject [] = .ok topProject ∧
      EndsFatally topSettings paddingProject [] ∧
      (execute ⟨paddingProject, [], noFaults⟩ ["check", "--output", "json"]).2.out = "" ∧
      (execute ⟨paddingProject, [], noFaults⟩ ["check", "--output", "json"]).2.code = 101 := by
  have hparse : Request.parse? ["check", "--output", "json"] =
      some (.run .check {} ⟨.json, false, false, false⟩) := by
    decide +kernel
  have hproject : Project.find paddingProject [] = .ok topProject :=
    Project.find_of_root (by decide +kernel) (by decide +kernel)
  have hdiscover : (topSettings.discover paddingProject []).result = .ok [paddingType] := by
    decide +kernel
  have hproperties : (GeneratorOptions.propertiesFor (paddingProject.fieldsOf [])
      paddingType).result = .ok ["_"] := by
    decide +kernel
  have hrendered : topSettings.rendered paddingProject [] paddingType =
      .error (.invalidName "crate::Padding") := by
    rw [topSettings.rendered_of_propertiesFor hproperties,
      topSettings.render_of_mem_pathWords isPlainRuntime_default (by decide) (by decide)
        List.mem_cons_self (by decide)]
    rfl
  have hresult : (topSettings.check paddingProject []).result =
      .error (.rendering "crate::Padding" (.invalidName "crate::Padding")) :=
    (topSettings.stopped_at_first (w := ⟨paddingProject, [], noFaults⟩) hdiscover hrendered).2
  have hends : EndsFatally topSettings paddingProject [] := ⟨_, _, hresult, rfl⟩
  rw [execute_check hparse]
  have hnone : ∀ project reports, Project.find paddingProject [] = .ok project →
      ((project.settings {}).check paddingProject []).result ≠ .ok reports := by
    intro project reports hfound hok
    obtain rfl := Except.ok.inj (hproject.symm.trans hfound)
    exact absurd (hresult.symm.trans hok) (by simp)
  refine ⟨hparse, hproject, hends, check_out_of_no_reports (by decide) hnone, ?_⟩
  obtain ⟨-, hcode⟩ | ⟨hnot, -⟩ := (check_of_no_reports hnone).2
  · exact hcode
  · exact absurd hends (hnot topProject hproject)

/-! ## What ends a check on the spot -/

/-- A rendering that ends the program on the spot is that of a struct with a field that goes by a
word which cannot be marked as raw. -/
theorem exists_field_of_isFatal {settings : BatchSettings} {type : StructType}
    {cause : GenerateError} (hruntime : IsPlainRuntime settings.runtime)
    (hname : isIdentifier type.name.toList = true)
    (hpath : type.name ∉ ["self", "super", "crate"])
    (hrendered : settings.rendered tree cwd type = .error cause) (hfatal : cause.isFatal = true) :
    ∃ fields, tree.fieldsOf cwd type = .ok fields ∧ ∃ field ∈ fields, field.name ∈ pathWords := by
  by_cases hgeneric : ∃ name, tree.fieldsOf cwd type = .error (.generic name)
  · obtain ⟨name, hgeneric⟩ := hgeneric
    rw [settings.rendered_of_generic hgeneric] at hrendered
    rw [← Except.error.inj hrendered] at hfatal
    exact absurd hfatal Bool.false_ne_true
  obtain ⟨names, hproperties, hmem⟩ :=
    BatchSettings.propertiesFor_eq fun name h => hgeneric ⟨name, h⟩
  have hnames : ∀ name ∈ names, isIdentifier name.toList = true := by
    intro name hmember
    obtain ⟨fields, hfields, field, hfield, rfl⟩ := (hmem name).1 hmember
    exact isIdentifier_of_fieldsOf hfields hfield
  by_cases hword : ∃ name ∈ names, name ∈ pathWords
  · obtain ⟨name, hmember, hword⟩ := hword
    obtain ⟨fields, hfields, field, hfield, rfl⟩ := (hmem name).1 hmember
    exact ⟨fields, hfields, field, hfield, hword⟩
  -- with other fields, only the name of the struct can be wrong, and that ends nothing on the spot
  have hwords : ∀ name ∈ names, name ∉ pathWords := fun name hmember h => hword ⟨name, hmember, h⟩
  rw [settings.rendered_of_propertiesFor hproperties] at hrendered
  cases hreserved : isReserved type.name with
  | true =>
      rw [settings.render_of_isReserved hruntime hname hnames hwords hreserved hpath] at hrendered
      rw [← Except.error.inj hrendered] at hfatal
      exact absurd hfatal Bool.false_ne_true
  | false =>
      obtain ⟨source, hsource⟩ :=
        settings.render_of_not_isReserved hruntime hname hnames hwords hreserved
      rw [hsource] at hrendered
      exact absurd hrendered (by simp [Except.map])

/-- With a runtime that is named by words, only a discovered struct with such a field ends a check
on the spot. -/
theorem exists_field_of_endsFatally {settings : BatchSettings} (hlawful : tree.Lawful)
    (hruntime : IsPlainRuntime settings.runtime) (hends : EndsFatally settings tree cwd)
    (hnames : ∀ types, (settings.discover tree cwd).result = .ok types →
      ∀ type ∈ types, type.name ∉ ["self", "super", "crate"]) :
    ∃ types, (settings.discover tree cwd).result = .ok types ∧ ∃ type ∈ types,
      ∃ fields, tree.fieldsOf cwd type = .ok fields ∧ ∃ field ∈ fields, field.name ∈ pathWords := by
  obtain ⟨name, cause, hresult, hfatal⟩ := hends
  obtain ⟨root, -, he⟩ | ⟨path, other, he⟩ |
    ⟨types, hdiscover, type, htype, other, hrendered, he⟩ := check_error_cases hresult
  · exact absurd he (by simp)
  · exact absurd he (by simp)
  obtain ⟨rfl, rfl⟩ := BatchError.rendering.inj he
  have hname := settings.isIdentifier_of_mem_discover hlawful hdiscover htype
  exact ⟨types, hdiscover, type, htype, exists_field_of_isFatal hruntime hname
    (hnames types hdiscover type htype) hrendered hfatal⟩

end Command

end StructMatch
