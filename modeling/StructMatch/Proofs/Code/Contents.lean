import StructMatch.Proofs.Code.Distinctness
import StructMatch.Proofs.Code.Members
import StructMatch.Proofs.Code.RuntimePath
import StructMatch.Proofs.Code.WellFormed

/-!
# The contents of a matcher file

The text of a matcher file is read as the tokens of its sections, wherever its lines are broken,
`tokenize?_fileDoc`.  For a specification that was built from a type and its properties, these are
the members that `memberTokens` writes out, `fileTokens_build`.  So a file that is rendered has
these members and no others, `exists_members_of_render`.
-/

namespace StructMatch.Code

open Layout Source

variable {mode : Mode} {kind : List Token → Prop} {rest : List Char}

/-! ## Comments -/

/-- Whether a text is read as tokens of some kind where a blank stands before it. -/
def ScannedAfterBlank (kind : List Token → Prop) (rest cs : List Char) : Prop :=
  ∀ c, c = ' ' ∨ c = '\n' → Scanned true kind rest (c :: cs)

theorem keptByBlanks_scannedAfterBlank (kind : List Token → Prop) (rest : List Char) :
    KeptByBlanks (ScannedAfterBlank kind rest) :=
  fun _ h _ hc => (h ' ' (.inl rfl)).blank hc

/-- A text that begins with a line break. -/
def BeginsLine (after : List Char → Prop) (cs : List Char) : Prop :=
  ∃ more, cs = '\n' :: more ∧ after more

theorem emits_hardLine (after : List Char → Prop) :
    Emits codePage .together [hardLine] after (BeginsLine after) :=
  Emits.line (fun hstay => absurd hstay (by decide)) (fun _ _ cs hcs _ => ⟨cs, rfl, hcs⟩)
    fun h => absurd rfl h

/-- A comment on a line of its own documents what follows. -/
theorem prints_commentDocs {comment : String}
    (htext : ∀ c ∈ comment.toList, c ≠ '\n' ∧ c ≠ '\r') (hslash : comment.toList.head? ≠ some '/') :
    Prints .together false true ([hardLine] ++ commentDocs comment ++ [hardLine])
      (commentTokens comment) := by
  intro ts rest
  have hcomment : Emits codePage .together (commentDocs comment)
      (BeginsLine (Scanned false (LaidOutFrom · ts) rest))
      (ScannedAfterBlank (LaidOutFrom · (commentTokens comment ++ ts)) rest) := by
    refine Emits.text ?_ (keptByBlanks_scannedAfterBlank _ _)
    rintro _ ⟨cs, rfl, hcs⟩ c hc
    have hblank : isSeparator c = true := by rcases hc with rfl | rfl <;> decide
    have hchars : ("///" ++ comment).toList ++ '\n' :: cs =
        '/' :: '/' :: '/' :: (comment.toList ++ '\n' :: cs) := by simp
    rw [hchars]
    refine ⟨hcs.scans.comment hblank htext hslash fun actual hactual => ?_, fun _ => ?_⟩
    · rw [String.ofList_toList]
      exact .sign '#' id (.group .square
        (.word "doc" (.sign '=' id (.literal .text (Text.literal comment) .nil))) hactual)
    · rcases hc with rfl | rfl <;> exact clear_cons (by decide) (by decide)
  have hline : Emits codePage .together [hardLine]
      (ScannedAfterBlank (LaidOutFrom · (commentTokens comment ++ ts)) rest)
      (Scanned true (LaidOutFrom · (commentTokens comment ++ ts)) rest) :=
    (emits_hardLine _).mono (fun _ => id) fun _ ⟨more, hmore, h⟩ => hmore ▸ h '\n' (.inr rfl)
  exact (hline.append hcomment).append (emits_hardLine _)

/-- A comment about something that has a name. -/
theorem prints_commentDocs_of_name {start finish name : String}
    (hstart : start.toList.head? = some ' ' ∧ ∀ c ∈ start.toList, c ≠ '\n' ∧ c ≠ '\r')
    (hfinish : ∀ c ∈ finish.toList, c ≠ '\n' ∧ c ≠ '\r') (hname : isCodeWord name = true) :
    Prints .together false true
      ([hardLine] ++ commentDocs (start ++ name ++ finish) ++ [hardLine])
      (commentTokens (start ++ name ++ finish)) := by
  refine prints_commentDocs (fun c hc => ?_) ?_
  · simp only [String.toList_append, List.mem_append] at hc
    rcases hc with (hc | hc) | hc
    · exact hstart.2 c hc
    · exact stays_of_isCodeWord hname c hc
    · exact hfinish c hc
  · simp [hstart.1]

/-! ## Sections -/

theorem prints_textConstantDocs {name : String} (h : isCodeWord name = true) (value : String) :
    Prints mode false false (textConstantDocs name value) (constantTokens name value) := by
  have hlabel : Spells false true ": &'static str = "
      (signs ":" ++ (signs "&" ++ (lifetimeTokens "static" ++ (word "str" ++ signs "=")))) :=
    (Spells.marks ":" (by decide)).append (Spells.blank.append
      ((Spells.marks "&" (by decide)).append ((Spells.lifetime "static" (by decide)).append
        (Spells.blank.append ((Spells.word (by decide)).append (Spells.blank.append
          ((Spells.marks "=" (by decide)).append .blank)))))))
  have hname : Spells false false ("const " ++ name ++ ": &'static str = ") _ :=
    ((Spells.phrase ["const"] (by decide)).append (.word h)).append hlabel
  have hvalue (mode : Mode) : Prints mode false false [.text (Text.literal value ++ ";")] _ :=
    .text ((Spells.literal value).append (.marks ";" (by decide)))
  have hkept (mode : Mode) : Prints mode false false [.line { mayEnd := false }] [] :=
    .soft rfl rfl
  have hline (mode : Mode) : Prints mode false false ([Doc.text ("const " ++ name ++
      ": &'static str = ")] ++ ([Doc.line { mayEnd := false }] ++
        [Doc.text (Text.literal value ++ ";")])) _ :=
    (Prints.text hname).append ((hkept mode).append (hvalue mode))
  exact (Prints.group hline).of_eq (by simp [constantTokens, words, word])

/-- The tokens of an implementation up to its body. -/
def implementationTokens (trait? : Option (List Token)) (name : String) : List Token :=
  word "impl" ++ (trait?.elim [] fun trait => trait ++ word "for") ++ word name

/-- An implementation up to its body. -/
theorem prints_implementationHead {trait? : Option (List Doc)} {traitTokens? : Option (List Token)}
    (htrait : ∀ mode, Option.Rel (Prints mode true false) trait? traitTokens?) {name : String}
    (h : isCodeWord name = true) : Prints mode false false (implementationHead trait? name)
      (implementationTokens traitTokens? name) := by
  have himpl (mode : Mode) : Prints mode true false [.text "impl"] (word "impl") :=
    .text (.word (by decide))
  have hname (mode : Mode) : Prints mode true false [.text name] (word name) := .text (.word h)
  have hfor (mode : Mode) : Prints mode false false [.text "for "] (words ["for"]) :=
    .text (.phrase ["for"] (by decide))
  have hblank (mode : Mode) : Prints mode false true [.text " "] [] := .text .blank
  cases trait? with
  | none =>
      obtain rfl : traitTokens? = none := by cases htrait .flat; rfl
      have hhead (mode : Mode) : Prints mode true false
          ([Doc.group level true [.text "impl"]] ++ [Doc.text " "] ++ ([] ++ [Doc.text name])) _ :=
        ((Prints.group himpl).append (hblank mode)).append
          ((@Prints.nil mode false).append (hname mode))
      exact ((Prints.group hhead).append (hblank mode)).of_eq (by simp [implementationTokens])
  | some trait =>
      obtain ⟨ts, rfl⟩ : ∃ ts, traitTokens? = some ts := by cases htrait .flat; exact ⟨_, rfl⟩
      have hpath (mode : Mode) : Prints mode true false trait ts := by
        cases htrait mode
        assumption
      have hhead (mode : Mode) : Prints mode true false ([Doc.group level true [.text "impl"]] ++
          [Doc.text " "] ++ (trait ++ ([spaceLine] ++ [Doc.text "for "]) ++ [Doc.text name])) _ :=
        ((Prints.group himpl).append (hblank mode)).append
          (((hpath mode).append (Prints.spaceLine.append (hfor mode))).append (hname mode))
      exact ((Prints.group hhead).append (hblank mode)).of_eq (by
        simp [implementationTokens, words, word])

section Sections

variable {spec : MatcherSpec} (hwords : hasCodeWords spec = true) {path : SourcePath}
  {tokens : List Token} (hpath : KeepsTokens path tokens)

theorem prints_lintDocs : Prints mode false false (lintDocs spec) (lintTokens spec.naming) := by
  have hmark : Spells false false "#" (signs "#") := .signs (by decide) nofun
  have hallow {lints : String} {ts : List Token} (h : Spells true false lints ts) :
      Spells false false ("#" ++ ("!" ++ ("[" ++ ("allow" ++ ("(" ++ lints ++ ")")) ++ "]")))
        (signs "#" ++ (signs "!" ++ square (word "allow" ++ round ts))) :=
    hmark.append ((Spells.marks "!" (by decide)).append (.group .square rfl rfl
      (Spells.loose ((Spells.word (by decide)).append (.group .round rfl rfl h)))))
  have hcomma : Spells false true (", ") (signs ",") := (Spells.marks "," (by decide)).append .blank
  have hdead : Spells true false "dead_code" (word "dead_code") := .word (by decide)
  have hdefault : Spells true false ("clippy" ++ ("::" ++ "new_without_default")) _ :=
    (Spells.word (by decide)).append ((Spells.marks "::" (by decide)).append (.word (by decide)))
  have hcase : Spells true false "non_snake_case" (word "non_snake_case") := .word (by decide)
  rw [lintDocs]
  cases spec.naming with
  | snake => exact (Prints.text (hallow (hdead.append (hcomma.append hdefault)))).of_eq rfl
  | camel =>
      exact (Prints.text (hallow (hdead.append (hcomma.append
        (hdefault.append (hcomma.append hcase)))))).of_eq rfl

include hwords

theorem prints_useDocs : Prints mode false false (useDocs spec) (List.flatten
    [words ["use", "super"], signs "::", word spec.target.name, signs ";"]) := by
  have hend : Spells false true ("::" ++ (spec.target.name ++ ";"))
      (signs "::" ++ (word spec.target.name ++ signs ";")) :=
    (Spells.marks "::" (by decide)).append
      ((Spells.word (isCodeWord_of_mem hwords (by simp [codeWords]))).append
        (.marks ";" (by decide)))
  have huse : Spells false false ("use " ++ ("super" ++ ("::" ++ (spec.target.name ++ ";")))) _ :=
    (Spells.phrase ["use"] (by decide)).append ((Spells.word (by decide)).append hend)
  have htext : "use " ++ ("super" ++ ("::" ++ (spec.target.name ++ ";"))) =
      "use super::" ++ spec.target.name ++ ";" := by
    simp only [← String.append_assoc]
    rfl
  rw [htext] at huse
  exact (Prints.text huse).of_eq (by simp [words, word])

include hpath

theorem prints_structDocs : Prints mode false false (structDocs spec path) (List.flatten
    [words ["pub", "struct"], word spec.className, curly (List.flatten
      [word spec.registryField.name, signs ":", runtimeItem tokens "BeanPropertyMatcher",
        signs "<", word spec.registryField.target, signs ">", signs ","])]) := by
  have hname (mode : Mode) : Prints mode false false
      [.text ("pub struct " ++ spec.className ++ " ")] _ :=
    .text (((Spells.phrase ["pub", "struct"] (by decide)).append
      (.word (isCodeWord_of_mem hwords (by simp [codeWords])))).append .blank)
  have hlabel (mode : Mode) : Prints mode false false
      [Doc.text (spec.registryField.name ++ ": ")] _ :=
    .text ((Spells.word (isCodeWord_of_mem hwords (by simp [codeWords]))).append
      ((Spells.marks ":" (by decide)).append .blank))
  have hcomma (mode : Mode) : Prints mode false true [.text ","] (signs ",") :=
    .text (.marks "," (by decide))
  have hfield (mode : Mode) : Prints mode false false
      ([Doc.text (spec.registryField.name ++ ": ")] ++ pathDocs false (path.extend
        [typedSegment "BeanPropertyMatcher" spec.registryField.target]) ++ [Doc.text ","]) _ :=
    ((hlabel mode).append (prints_typedRuntime hpath (by decide)
      (isCodeWord_of_mem hwords (by simp [codeWords])))).append (hcomma mode)
  exact (Prints.itemWithBody hname fun mode => .cons (hfield mode).loose .nil).of_eq (by
    simp [words, word])

theorem prints_ownMethodsDocs : Prints mode false false (ownMethodsDocs spec path) (List.flatten
    [word "impl", word spec.className, curly (constructorTokens spec tokens ++
      spec.propertyMethods.flatMap (propertyMethodTokens spec tokens))]) := by
  have hhead (mode : Mode) : Prints mode false false (implementationHead none spec.className) _ :=
    prints_implementationHead (fun _ => .none) (isCodeWord_of_mem hwords (by simp [codeWords]))
  have hmethods (mode : Mode) : List.Forall₂ (Prints mode true false)
      (spec.propertyMethods.map (propertyMethodDocs spec path))
      (spec.propertyMethods.map (propertyMethodTokens spec tokens)) := by
    rw [List.forall₂_map_left_iff, List.forall₂_map_right_iff, List.forall₂_same]
    exact fun method hmethod => prints_propertyMethodDocs hwords hpath hmethod
  exact (Prints.itemWithBody hhead fun mode =>
    .cons (prints_constructorDocs hwords hpath) (hmethods mode)).of_eq (by
      simp [implementationTokens, List.flatMap_def])

theorem prints_protocolDocs : Prints mode false false (protocolDocs spec path) (List.flatten
    [word "impl", runtimeItem tokens "TypeSafeMatcher", signs "<", word spec.target.name,
      signs ">", word "for", word spec.className,
      curly (spec.protocolMethods.flatMap (protocolMethodTokens spec tokens))]) := by
  have hhead (mode : Mode) : Prints mode false false (implementationHead (some (pathDocs false
      (path.extend [typedSegment "TypeSafeMatcher" spec.target.name]))) spec.className) _ :=
    prints_implementationHead (fun _ => .some (prints_typedRuntime hpath (by decide)
      (isCodeWord_of_mem hwords (by simp [codeWords]))))
      (isCodeWord_of_mem hwords (by simp [codeWords]))
  have hmethods (mode : Mode) : List.Forall₂ (Prints mode true false)
      (spec.protocolMethods.map (protocolMethodDocs spec path))
      (spec.protocolMethods.map (protocolMethodTokens spec tokens)) := by
    rw [List.forall₂_map_left_iff, List.forall₂_map_right_iff, List.forall₂_same]
    exact fun method hmethod => prints_protocolMethodDocs hwords hpath hmethod
  exact (Prints.itemWithBody hhead hmethods).of_eq (by
    simp [implementationTokens, List.flatMap_def])

theorem prints_provenanceDocs : Prints mode false false (provenanceDocs spec path) (List.flatten
    [word "impl", runtimeItem tokens "GeneratedMatcher", word "for", word spec.className,
      curly (constantTokens "GENERATED_BY" spec.provenance.generatedBy ++
        constantTokens "BASED_ON" spec.provenance.basedOn)]) := by
  have hhead (mode : Mode) : Prints mode false false (implementationHead
      (some (runtimeType path "GeneratedMatcher")) spec.className) _ :=
    prints_implementationHead (fun _ => .some (prints_runtimeType hpath (by decide)))
      (isCodeWord_of_mem hwords (by simp [codeWords]))
  have hconstant {name : String} (h : isCodeWord name = true) (value : String) (mode : Mode) :
      Prints mode true false (textConstantDocs name value) (constantTokens name value) :=
    (prints_textConstantDocs h value).loose
  have hconstants (mode : Mode) := List.Forall₂.cons
    (hconstant (by decide : isCodeWord "GENERATED_BY" = true) spec.provenance.generatedBy mode)
    (.cons (hconstant (by decide : isCodeWord "BASED_ON" = true) spec.provenance.basedOn mode) .nil)
  exact (Prints.itemWithBody hhead hconstants).of_eq (by simp [implementationTokens])

omit hpath in
theorem prints_factoryDocs : Prints mode false false (factoryDocs spec) (List.flatten
    [words ["pub", "fn"], word spec.factory.name, round [], signs "->", word spec.factory.returns,
      curly (List.flatten [word spec.factory.returns, signs "::", word spec.constructorName,
        round []])]) := by
  have hreturns : Spells true false spec.factory.returns (word spec.factory.returns) :=
    .word (isCodeWord_of_mem hwords (by simp [codeWords]))
  have hname : Spells true false ("pub fn " ++ spec.factory.name) _ :=
    (Spells.phrase ["pub", "fn"] (by decide)).append
      (.word (isCodeWord_of_mem hwords (by simp [codeWords])))
  have htype (mode : Mode) : Prints mode true false [.text spec.factory.returns] _ :=
    .text hreturns
  have hhead (mode : Mode) : Prints mode false false
      (functionHead ("pub fn " ++ spec.factory.name) [] [] (some [.text spec.factory.returns]) ++
        [Doc.text " "]) _ :=
    (prints_functionHead hname (by simp) (fun _ => .nil)
      fun mode => .some (htype mode)).append (.text .blank)
  have hempty : Spells false true ("(" ++ "" ++ ")") (round []) :=
    .group .round rfl rfl (.empty (by decide))
  have hcall (mode : Mode) : Prints mode false false
      [.text (spec.factory.returns ++ "::" ++ spec.constructorName ++ "()")] _ :=
    .text (((hreturns.append (.marks "::" (by decide))).append
      (.word (isCodeWord_of_mem hwords (by simp [codeWords])))).append hempty)
  have hbody (mode : Mode) : List.Forall₂ (Prints mode true false) _ _ :=
    .cons (Prints.loose (.statementLine hcall)) .nil
  exact (Prints.itemWithBody hhead hbody).of_eq (by
    simp [genericTokens, resultTokens, words, word])

end Sections

/-! ## The file -/

section File

variable {spec : MatcherSpec} (hwords : hasCodeWords spec = true) {path : SourcePath}
  {tokens : List Token} (hpath : KeepsTokens path tokens)
include hwords hpath

/-- The sections of a file are read one after another. -/
theorem prints_sections : Prints .together false false
    (sectionsBefore spec path ++ hardLine :: (ownMethodsDocs spec path ++ hardLine ::
      sectionsAfter spec path)) (fileTokens spec tokens) := by
  have hstructComment : Prints .together false true
      ([hardLine] ++ commentDocs (structComment spec) ++ [hardLine])
      (commentTokens (structComment spec)) :=
    prints_commentDocs_of_name ⟨by decide, List.all_iff_forall_prop.1 (by decide)⟩
      (List.all_iff_forall_prop.1 (by decide))
      (isCodeWord_of_mem hwords (by simp [codeWords]))
  have hfactoryComment : Prints .together false true
      ([hardLine] ++ commentDocs (factoryComment spec) ++ [hardLine])
      (commentTokens (factoryComment spec)) :=
    prints_commentDocs_of_name ⟨by decide, List.all_iff_forall_prop.1 (by decide)⟩
      (List.all_iff_forall_prop.1 (by decide))
      (isCodeWord_of_mem hwords (by simp [codeWords]))
  have hbefore : Prints .together false false (lintDocs spec ++ ([spaceLine] ++ (useDocs spec ++
      ([hardLine] ++ commentDocs (structComment spec) ++ [hardLine] ++ structDocs spec path)))) _ :=
    prints_lintDocs.append (Prints.spaceLine.append ((prints_useDocs hwords).append
      (hstructComment.append (prints_structDocs hwords hpath))))
  have hafter : Prints .together false false (protocolDocs spec path ++ ([hardLine] ++
      (provenanceDocs spec path ++ ([hardLine] ++ commentDocs (factoryComment spec) ++
        [hardLine] ++ (factoryDocs spec ++ [hardLine]))))) _ :=
    (prints_protocolDocs hwords hpath).append (Prints.hardLine.append
      ((prints_provenanceDocs hwords hpath).append (hfactoryComment.append
        ((prints_factoryDocs hwords).append .hardLine))))
  have hsections := hbefore.append (Prints.hardLine.append
    ((prints_ownMethodsDocs hwords hpath).append (Prints.hardLine.append hafter)))
  have htokens : Prints .together false false _ (fileTokens spec tokens) := hsections.of_eq (by
    simp only [fileTokens, structTokens, List.flatten_cons, List.flatten_nil, List.append_assoc,
      List.nil_append, List.append_nil])
  simpa only [sectionsBefore, sectionsAfter, List.append_assoc, List.cons_append, List.nil_append]
    using htokens

omit hwords hpath in
/-- A file begins with the lints that are allowed. -/
theorem exists_text_fileDoc (spec : MatcherSpec) (path : SourcePath) :
    ∃ rest, (fileDoc spec path).render codePage = "#" ++ rest := by
  obtain ⟨rest, hrest⟩ := exists_text_layOutAll codePage
    ((sectionsBefore spec path ++ hardLine :: (ownMethodsDocs spec path ++ hardLine ::
      sectionsAfter spec path)).tail) .together 0 0 ((freshLine codePage 0).write
        ("#![allow(" ++ ", ".intercalate (allowedLints spec.naming) ++ ")]"))
  have hlints : "#![allow(" = "#" ++ "![allow(" := rfl
  refine ⟨"![allow(" ++ ", ".intercalate (allowedLints spec.naming) ++ ")]" ++ rest, ?_⟩
  rw [render_fileDoc_eq]
  refine hrest.trans ?_
  rw [hlints]
  simp only [String.append_assoc, Sheet.write]
  rfl

/-- The text of a file is read as its tokens. -/
theorem tokenize?_fileDoc : ∃ read,
    tokenize? ((fileDoc spec path).render codePage).toList = some read ∧
      LaidOutFrom read (fileTokens spec tokens) := by
  have hend : Scanned false (LaidOutFrom · []) [] [] :=
    ⟨Scans.nil.mono fun _ h => h ▸ .nil, by simp⟩
  obtain ⟨cs, htext, -, hscanned⟩ :=
    prints_sections hwords hpath [] [] 0 0 (freshLine codePage 0) [] (.inl rfl) hend
  have hchars : ((fileDoc spec path).render codePage).toList = cs := by
    rw [render_fileDoc_eq, ← List.append_nil (String.toList _), htext]
    rfl
  rw [hchars]
  rw [List.append_nil] at hscanned
  refine hscanned.scans.tokenize? fun c hc => ?_
  obtain ⟨rest, hrest⟩ := exists_text_fileDoc spec path
  rw [hrest] at hchars
  rw [← hchars] at hc
  obtain rfl : '#' = c := by simpa using hc
  decide

end File

/-! ## The members of a rendered file -/

/-- The word for the field of a property is its name, maybe marked as a raw one. -/
theorem unraw_fieldWord {property : String} (h : isFieldName property = true) :
    Text.unraw (fieldWord property) = property := by
  rw [isFieldName, Bool.and_eq_true] at h
  unfold fieldWord
  split
  · rw [Text.unraw, String.toList_append]
    exact String.ofList_toList
  · exact unraw_of_isIdentifier h.1

/-- No reserved word is left unmarked where a field is read. -/
theorem isReserved_fieldWord (property : String) :
    Text.isReserved (fieldWord property) = false := by
  unfold fieldWord
  split
  · exact isReserved_append_of_start (by decide)
  · next h => exact Bool.eq_false_iff.2 h

/-- The fluent method for a property: it registers a reader of the field and the matcher that it is
given under the name of the property. -/
def fluentTokens (naming : Naming) (runtime : List Token) (property : String) : List Token :=
  let name :=
    match naming with
    | .snake => "with_" ++ property
    | .camel => "with" ++ capitalize property
  let reader := List.flatten
    [signs "|", word "item", signs "|", signs "&", word "item", signs ".",
      word (fieldWord property)]
  List.flatten
    [words ["pub", "fn"], word name, signs "<", word "M", signs ">",
      round (List.flatten [words ["mut", "self"], signs ",", word "matcher", signs ":", word "M"]),
      signs "->", word "Self",
      words ["where", "M"], signs ":", runtimeItem runtime "Matcher", signs "<", word "dyn",
        runtimeItem runtime "PropertyValue", signs ">", signs "+", lifetimeTokens "static",
        signs ",",
      curly (List.flatten
        [word "self", signs ".", word "bean_property_matcher", signs ".", word "with",
          round (List.flatten
            [[textLiteral property], signs ",", reader, signs ",", word "matcher"]),
          signs ";", word "self"])]

/-- A call of an operation of matchers for a type on the registry. -/
def registryCall (typeName : String) (runtime : List Token) (operation : String)
    (arguments : List Token) : List Token :=
  List.flatten
    [runtimeItem runtime "Matcher", signs "::", signs "<", word typeName, signs ">", signs "::",
      word operation,
      round (List.flatten
        [signs "&", word "self", signs ".", word "bean_property_matcher", arguments])]

/-- The three methods of the matching protocol, each of which forwards to the registry. -/
def protocolTokens (typeName : String) (runtime : List Token) : List Token :=
  let receiver := signs "&" ++ word "self"
  let item := List.flatten [signs ",", word "item", signs ":", signs "&", word typeName]
  let description := List.flatten
    [signs ",", word "description", signs ":", signs "&", word "mut",
      runtimeItem runtime "Description"]
  List.flatten
    [word "fn", word "describe_to", round (receiver ++ description),
      curly (registryCall typeName runtime "describe_to" (signs "," ++ word "description") ++
        signs ";"),
      word "fn", word "matches_safely", round (receiver ++ item), signs "->", word "bool",
      curly (registryCall typeName runtime "matches" (signs "," ++ word "item")),
      word "fn", word "describe_mismatch_safely", round (receiver ++ item ++ description),
      curly (registryCall typeName runtime "describe_mismatch"
        (signs "," ++ word "item" ++ (signs "," ++ word "description")) ++ signs ";")]

/-- The members of the matcher for a type with the given properties, each once and in their order:
the lints that are allowed, the import of the type, the struct with the registry as its only field,
its own methods, the matching protocol, the provenance and the factory. -/
def memberTokens (naming : Naming) (generatorName : String) (type : StructType)
    (properties : List String) (runtime : List Token) : List Token :=
  let target := word type.name
  let className := type.name ++ "Matcher"
  let registry := word "bean_property_matcher" ++ signs ":" ++
    runtimeItem runtime "BeanPropertyMatcher"
  let lints := List.flatten
    [word "dead_code", signs ",", word "clippy", signs "::", word "new_without_default",
      match naming with
      | .snake => []
      | .camel => signs "," ++ word "non_snake_case"]
  let documented := fun text : String =>
    signs "#" ++ square (word "doc" ++ signs "=" ++ [textLiteral text])
  let constant := fun name value : String => List.flatten
    [word "const", word name, signs ":", signs "&", lifetimeTokens "static", word "str",
      signs "=", [textLiteral value], signs ";"]
  let factoryName :=
    match naming with
    | .snake => "is_" ++ snakeCase type.name
    | .camel => "is" ++ type.name
  List.flatten
    [signs "#", signs "!", square (word "allow" ++ round lints),
      words ["use", "super"], signs "::", target, signs ";",
      documented (" Fluent matcher for the properties of [\x60" ++ type.name ++ "\x60]."),
      words ["pub", "struct"], word className,
        curly (List.flatten [registry, signs "<", target, signs ">", signs ","]),
      word "impl", word className, curly (List.flatten
        [words ["pub", "fn"], word "new", round [], signs "->", word "Self",
          curly (word "Self" ++ curly (List.flatten
            [registry, signs "::", word "new", round [], signs ","])),
          properties.flatMap (fluentTokens naming runtime)]),
      word "impl", runtimeItem runtime "TypeSafeMatcher", signs "<", target, signs ">",
        word "for", word className, curly (protocolTokens type.name runtime),
      word "impl", runtimeItem runtime "GeneratedMatcher", word "for", word className,
        curly (constant "GENERATED_BY" generatorName ++
          constant "BASED_ON" type.qualifiedName),
      documented (" Creates a [\x60" ++ className ++ "\x60] with no property expectations."),
      words ["pub", "fn"], word factoryName, round [], signs "->", word className,
        curly (List.flatten [word className, signs "::", word "new", round []])]

section Build

variable (naming : Naming) (generatorName : String) (type : StructType) (properties : List String)
  (runtime : List Token)

/-- The fluent methods of a specification are those for its properties. -/
theorem propertyMethodTokens_build :
    let spec := MatcherSpec.build naming generatorName type properties
    spec.propertyMethods.flatMap (propertyMethodTokens spec runtime) =
      properties.flatMap (fluentTokens naming runtime) := by
  intro spec
  have hmethods : spec.propertyMethods =
      properties.map fun property => ⟨naming.propertyMethod property, property, "matcher"⟩ := rfl
  rw [hmethods, List.flatMap_map]
  refine congrArg (List.flatMap · properties) (funext fun property => ?_)
  cases naming <;>
    simp only [propertyMethodTokens, fluentTokens, Naming.propertyMethod, List.flatten_cons,
      List.flatten_nil, List.append_assoc, List.append_nil] <;>
    rfl

/-- The protocol methods of a specification are the three that forward to the registry. -/
theorem protocolMethodTokens_build :
    let spec := MatcherSpec.build naming generatorName type properties
    spec.protocolMethods.flatMap (protocolMethodTokens spec runtime) =
      protocolTokens type.name runtime := by
  intro spec
  have hmethods : spec.protocolMethods =
      [⟨.describeTo, "bean_property_matcher"⟩, ⟨.matchesSafely, "bean_property_matcher"⟩,
        ⟨.describeMismatchSafely, "bean_property_matcher"⟩] := rfl
  rw [hmethods]
  simp only [List.flatMap_cons, List.flatMap_nil, protocolMethodTokens, protocolTokens,
    registryCall, ProtocolOperation.methodName, ProtocolOperation.delegate, List.flatten_cons,
    List.flatten_nil, List.append_assoc, List.append_nil]
  rfl

theorem fileTokens_build :
    fileTokens (MatcherSpec.build naming generatorName type properties) runtime =
      memberTokens naming generatorName type properties runtime := by
  have hmethods := propertyMethodTokens_build naming generatorName type properties runtime
  have hprotocol := protocolMethodTokens_build naming generatorName type properties runtime
  dsimp only at hmethods hprotocol
  cases naming <;>
    simp only [fileTokens, memberTokens, structTokens, constructorTokens, hmethods, hprotocol,
      List.flatten_cons, List.flatten_nil, List.append_assoc, List.append_nil] <;>
    rfl

end Build

section Rendered

variable {naming : Naming} {generatorName : String} {type : StructType} {properties : List String}
  {runtime source : String}

/-- A file that is rendered has the members that its specification was built for, whatever its
layout.  The literal in the method of a property denotes the property, and the field that is read
there goes by its name.  All that is asked of the layout is that it keeps the tokens of the path of
the runtime, as it does if no segment of the path has arguments. -/
theorem exists_members_of_render
    (hruntime : ∀ path tokens, readPath? runtime = some (path, tokens) → KeepsTokens path tokens)
    (h : (MatcherSpec.build naming generatorName type properties).render runtime = .ok source) :
    ∃ path tokens code read, readPath? runtime = some (path, tokens) ∧
      source = (Provenance.mk generatorName type.qualifiedName).header ++ code ∧
      tokenize? code.toList = some read ∧
      LaidOutFrom read (memberTokens naming generatorName type properties tokens) ∧
      ∀ property ∈ properties, Text.Denotes (Text.literal property) property ∧
        Text.isReserved (fieldWord property) = false ∧
        Text.unraw (fieldWord property) = property := by
  obtain ⟨path, tokens, hpath, hwords, rfl⟩ := MatcherSpec.render_eq_ok h
  obtain ⟨read, hread, hlaidOut⟩ := tokenize?_fileDoc hwords (hruntime path tokens hpath)
  rw [fileTokens_build] at hlaidOut
  refine ⟨path, tokens, _, read, hpath, rfl, hread, hlaidOut, fun property hproperty => ?_⟩
  have hfields := List.all_eq_true.1 (Bool.and_eq_true_iff.1 hwords).2
  have hfield : isFieldName property = true :=
    hfields _ (List.mem_map.2 ⟨property, hproperty, rfl⟩)
  exact ⟨Text.denotes_literal property, isReserved_fieldWord property, unraw_fieldWord hfield⟩

end Rendered

/-- A type of which the fields go by a reserved word and by a long name. -/
def parcelType : StructType := ⟨"Parcel", ⟨["post"]⟩, none⟩

/-- The fields of a parcel. -/
def parcelFields : List String :=
  ["type", "name_of_the_person_that_the_parcel_is_to_be_handed_over_to"]

theorem exists_members_parcel : ∃ source path tokens code read,
    (MatcherSpec.build .camel "parcels" parcelType parcelFields).render "::beanmatch" =
      .ok source ∧
    readPath? "::beanmatch" = some (path, tokens) ∧
    source = (Provenance.mk "parcels" parcelType.qualifiedName).header ++ code ∧
    tokenize? code.toList = some read ∧
    LaidOutFrom read (memberTokens .camel "parcels" parcelType parcelFields tokens) := by
  have hruntime : IsPlainRuntime "::beanmatch" := by decide +kernel
  obtain ⟨path, words, hpath, hreadable⟩ := hruntime.exists_words
  have hname : Text.isIdentifier parcelType.name.toList = true := by decide
  have hfields : ∀ field ∈ parcelFields, Text.isIdentifier field.toList = true := by decide
  have hwords : hasCodeWords (MatcherSpec.build .camel "parcels" parcelType parcelFields) = true :=
    (hasCodeWords_build_iff hname hfields).2 (by decide)
  obtain ⟨source, hsource⟩ := MatcherSpec.render_of_wellFormed hpath hwords
    (holdsVerbatim?_fileTokens hreadable (hasNames_build hname hfields (by decide)))
  obtain ⟨path', tokens, code, read, hpath', hcode, hread, hlaidOut, -⟩ :=
    exists_members_of_render (fun _ _ => keepsTokens_of_isPlainRuntime hruntime) hsource
  exact ⟨source, path', tokens, code, read, hsource, hpath', hcode, hread, hlaidOut⟩

end StructMatch.Code
