import StructMatch.Proofs.Batch.Library
import StructMatch.Proofs.Code.Extraction
import StructMatch.Proofs.Code.Malformed
import StructMatch.Proofs.Code.Names
import StructMatch.Proofs.Code.Rendering

/-!
# Types whose matchers can be rendered

Whether a matcher can be rendered does not depend on the other types: the name of the type must not
be reserved, no struct with parameters may be found when its fields are read, and no field may go by
a word that cannot be marked as raw, `rendered_or_refused`.  The text that is rendered plays no part
in whether its file can be written, `generated_of_replaceFile`, so that the result of a run is known
without the texts of its matchers.
-/

namespace StructMatch

open Source Text Code FileTree

/-! ## What a matcher is rendered from -/

/-- The fields that are read go by identifiers. -/
theorem isIdentifier_of_fieldsOf {tree : FileTree} {cwd : Location} {type : StructType}
    {fields : List Field} (h : tree.fieldsOf cwd type = .ok fields) {field : Field}
    (hfield : field ∈ fields) : isIdentifier field.name.toList = true := by
  have hfieldsIn : ∃ items declaration, fieldsIn items type declaration = .ok fields := by
    unfold FileTree.fieldsOf at h
    split at h
    · exact absurd h (by simp)
    · split at h
      · exact absurd h (by simp)
      · split at h
        · exact absurd h (by simp)
        · exact ⟨_, _, h⟩
  obtain ⟨items, declaration, hitems⟩ := hfieldsIn
  unfold fieldsIn at hitems
  split at hitems
  · exact absurd hitems (by simp)
  · next item _ =>
      split at hitems
      · exact absurd hitems (by simp)
      · obtain rfl := Except.ok.inj hitems
        obtain ⟨found, -, rfl⟩ := List.mem_map.1 hfield
        exact found.name.isWord

/-- Whether nothing about a type keeps its matcher from being rendered, when its fields are read
from the tree. -/
structure Renderable (tree : FileTree) (cwd : Location) (type : StructType) : Prop where
  /-- A reserved word can name a type neither in an import nor as an argument. -/
  notReserved : isReserved type.name = false
  notGeneric : ∀ name, tree.fieldsOf cwd type ≠ .error (.generic name)
  /-- Any other word can be marked as raw where it is reserved. -/
  canBeMarked : ∀ fields, tree.fieldsOf cwd type = .ok fields →
    ∀ field ∈ fields, field.name ∉ pathWords

/-- A type of which fields are read can be rendered if the words for it and them can be used. -/
theorem Renderable.of_fieldsOf {tree : FileTree} {cwd : Location} {type : StructType}
    {fields : List Field} (h : tree.fieldsOf cwd type = .ok fields)
    (hreserved : isReserved type.name = false) (hwords : ∀ field ∈ fields, field.name ∉ pathWords) :
    Renderable tree cwd type where
  notReserved := hreserved
  notGeneric name hgeneric := absurd (h.symm.trans hgeneric) (by simp)
  canBeMarked others hothers := by
    rwa [← Except.ok.inj (h.symm.trans hothers)]

namespace BatchSettings

variable (settings : BatchSettings) {tree : FileTree} {cwd : Location} {type : StructType}

/-! ## One matcher -/

/-- The properties of a type are the names of the fields that are read, if there are any. -/
theorem propertiesFor_eq {introspect : Introspector}
    (h : ∀ name, introspect type ≠ .error (.generic name)) :
    ∃ names, (GeneratorOptions.propertiesFor introspect type).result = .ok names ∧
      ∀ name, name ∈ names ↔
        ∃ fields, introspect type = .ok fields ∧ ∃ field ∈ fields, field.name = name := by
  rw [propertiesFor_eq_map fun name herror => h name (tryPropertiesOf_eq_error_iff.1 herror)]
  cases hproperties : tryPropertiesOf introspect type with
  | ok names =>
      obtain ⟨fields, hfields, hnames⟩ := tryPropertiesOf_eq_ok_iff.1 hproperties
      rw [propertiesOf_of_ok hproperties]
      exact ⟨names, rfl, fun name => by simp [hnames.mem_iff, hfields]⟩
  | error error =>
      rw [propertiesOf_of_error hproperties]
      exact ⟨[], rfl, fun name => by simp [tryPropertiesOf_eq_error_iff.1 hproperties]⟩

/-- For a struct with parameters there are no properties. -/
theorem propertiesFor_generic {introspect : Introspector} {name : String}
    (h : introspect type = .error (.generic name)) :
    (GeneratorOptions.propertiesFor introspect type).result = .error (.generic name) := by
  rw [propertiesFor_of_generic (tryPropertiesOf_eq_error_iff.2 h)]
  rfl

theorem propertiesFor_of_ok {introspect : Introspector} {fields : List Field}
    (h : introspect type = .ok fields) :
    (GeneratorOptions.propertiesFor introspect type).result =
      .ok (firstOccurrences (fields.map (·.name))) := by
  rw [GeneratorOptions.propertiesFor, tryPropertiesOf, h]
  rfl

theorem propertiesFor_of_notFound {introspect : Introspector} {name : String} {file : Path}
    (h : introspect type = .error (.notFound name file)) :
    (GeneratorOptions.propertiesFor introspect type).result = .ok [] := by
  rw [GeneratorOptions.propertiesFor, tryPropertiesOf, h]
  rfl

/-- The matcher of a type is rendered from its properties. -/
theorem rendered_of_propertiesFor {names : List String}
    (h : (GeneratorOptions.propertiesFor (tree.fieldsOf cwd) type).result = .ok names) :
    settings.rendered tree cwd type =
      ((settings.options.specFor type names).render settings.runtime).map
        fun source => ⟨settings.artifactPath type, source⟩ := by
  have hpath := settings.artifactPath_specFor type names
  have hdir : settings.options.outputDir = settings.outputDir := rfl
  rw [rendered, GeneratorOptions.renderMatcher, Logged.result_bind, h]
  simp only [Logged.result_pure, hdir, hpath]
  rfl

theorem rendered_of_generic {name : String}
    (h : tree.fieldsOf cwd type = .error (.generic name)) :
    settings.rendered tree cwd type = .error (.generic name) := by
  rw [rendered, GeneratorOptions.renderMatcher, Logged.result_bind, propertiesFor_generic h]
  rfl

section Names

variable {names : List String} (hruntime : IsPlainRuntime settings.runtime)
  (hname : isIdentifier type.name.toList = true)
  (hnames : ∀ name ∈ names, isIdentifier name.toList = true)
include hruntime hname hnames

/-- A word that cannot be marked as raw names no field. -/
theorem render_of_mem_pathWords {name : String} (hmem : name ∈ names) (hword : name ∈ pathWords) :
    (settings.options.specFor type names).render settings.runtime =
      .error (.invalidName type.qualifiedName) := by
  obtain ⟨path, words, hread, -⟩ := hruntime.exists_words
  have hcode : hasCodeWords (settings.options.specFor type names) = false := by
    rw [Bool.eq_false_iff, ne_eq, GeneratorOptions.specFor, hasCodeWords_build_iff hname hnames]
    exact fun h => h name hmem hword
  exact MatcherSpec.render_of_invalidName hread hcode

variable (hwords : ∀ name ∈ names, name ∉ pathWords)
include hwords

/-- A reserved word names no type. -/
theorem render_of_isReserved (hreserved : isReserved type.name = true)
    (hpath : type.name ∉ ["self", "super", "crate"]) :
    (settings.options.specFor type names).render settings.runtime =
      .error (.malformed type.qualifiedName) := by
  obtain ⟨path, words, hread, hreadable⟩ := hruntime.exists_words
  have hcode : hasCodeWords (settings.options.specFor type names) = true :=
    (hasCodeWords_build_iff hname hnames).2 hwords
  exact MatcherSpec.render_of_malformed hread hcode
    (holdsVerbatim?_fileTokens_of_isReserved hreadable
      (isName_of_isIdentifier (isIdentifier_className hname) isReserved_className) isName_registry
      rfl hreserved hpath)

/-- All other names can be used. -/
theorem render_of_not_isReserved (hreserved : isReserved type.name = false) :
    ∃ source, (settings.options.specFor type names).render settings.runtime = .ok source := by
  obtain ⟨path, words, hread, hreadable⟩ := hruntime.exists_words
  have hcode : hasCodeWords (settings.options.specFor type names) = true :=
    (hasCodeWords_build_iff hname hnames).2 hwords
  exact MatcherSpec.render_of_wellFormed hread hcode
    (holdsVerbatim?_fileTokens hreadable (hasNames_build hname hnames hreserved))

end Names

/-- Whether the matcher of a type is refused for what the type is: a struct with parameters, one
whose name makes the code malformed, or one with a field that cannot be read. -/
def Refuses (tree : FileTree) (cwd : Location) (type : StructType) : Prop :=
  (∃ name, settings.rendered tree cwd type = .error (.generic name)) ∨
    settings.rendered tree cwd type = .error (.malformed type.qualifiedName) ∨
    settings.rendered tree cwd type = .error (.invalidName type.qualifiedName)

/-- A type is rendered if nothing about it keeps it from that, and refused otherwise.  The words
that are left out are never marked as raw, and so no struct goes by them. -/
theorem rendered_or_refused (hruntime : IsPlainRuntime settings.runtime)
    (hname : isIdentifier type.name.toList = true) :
    (Renderable tree cwd type → ∃ artifact, settings.rendered tree cwd type = .ok artifact) ∧
      (type.name ∉ ["self", "super", "crate"] → ¬ Renderable tree cwd type →
        settings.Refuses tree cwd type) := by
  unfold Refuses
  by_cases hgeneric : ∃ name, tree.fieldsOf cwd type = .error (.generic name)
  · obtain ⟨name, hgeneric⟩ := hgeneric
    exact ⟨fun h => absurd hgeneric (h.notGeneric name),
      fun _ _ => .inl ⟨name, settings.rendered_of_generic hgeneric⟩⟩
  · have hnone : ∀ name, tree.fieldsOf cwd type ≠ .error (.generic name) :=
      fun name h => hgeneric ⟨name, h⟩
    obtain ⟨names, hproperties, hmem⟩ := propertiesFor_eq hnone
    have hnames : ∀ name ∈ names, isIdentifier name.toList = true := by
      intro name hname
      obtain ⟨fields, hfields, field, hfield, rfl⟩ := (hmem name).1 hname
      exact isIdentifier_of_fieldsOf hfields hfield
    rw [settings.rendered_of_propertiesFor hproperties]
    constructor
    · intro h
      have hwords : ∀ name ∈ names, name ∉ pathWords := by
        intro name hname
        obtain ⟨fields, hfields, field, hfield, rfl⟩ := (hmem name).1 hname
        exact h.canBeMarked fields hfields field hfield
      obtain ⟨source, hsource⟩ :=
        settings.render_of_not_isReserved hruntime hname hnames hwords h.notReserved
      rw [hsource]
      exact ⟨_, rfl⟩
    · intro hpath h
      by_cases hwords : ∀ name ∈ names, name ∉ pathWords
      · cases hreserved : isReserved type.name with
        | true =>
            rw [settings.render_of_isReserved hruntime hname hnames hwords hreserved hpath]
            exact .inr (.inl rfl)
        | false =>
            refine absurd ⟨hreserved, hnone, fun fields hfields field hfield => ?_⟩ h
            exact hwords _ ((hmem _).2 ⟨fields, hfields, field, hfield, rfl⟩)
      · push Not at hwords
        obtain ⟨name, hname', hword⟩ := hwords
        rw [settings.render_of_mem_pathWords hruntime hname hnames hname' hword]
        exact .inr (.inr rfl)

/-- Where one type is discovered that can be rendered, a run writes its matcher if its file can be
written. -/
theorem run_of_renderable {w : Workspace} (hruntime : IsPlainRuntime settings.runtime)
    (hdiscover : (settings.discover w.tree w.cwd).result = .ok [type])
    (hname : isIdentifier type.name.toList = true) (h : Renderable w.tree w.cwd type)
    (text : String) (hreplace : (w.tree.replaceFile (w.faults 0) w.cwd (settings.artifactDir type)
      (settings.artifactPath type) text).2 = .ok ()) :
    (settings.run w).2.result = .ok [settings.artifactPath type] := by
  obtain ⟨artifact, hrendered⟩ := (settings.rendered_or_refused hruntime hname).1 h
  exact settings.run_of_generated hdiscover
    (settings.generated_of_replaceFile hrendered hreplace)

end BatchSettings

theorem renderable_userCrate : Renderable userCrate [] userType := by
  have hfields : userCrate.fieldsOf [] userType = .ok [⟨"name", "String"⟩] :=
    isLibrary_userCrate.fieldsOf hasLibrary_userCrate List.mem_cons_self
  exact .of_fieldsOf hfields (by decide) (by decide)

/-- A run of the crate writes one matcher. -/
theorem run_userCrate : (({} : BatchSettings).run ⟨userCrate, [], noFaults⟩).2.result =
    .ok [⟨"src/generated/user_matcher.rs"⟩] :=
  ({} : BatchSettings).run_of_renderable (w := ⟨userCrate, [], noFaults⟩) isPlainRuntime_default
    userSample.discovers (by decide) renderable_userCrate "" (by decide +kernel)

end StructMatch
