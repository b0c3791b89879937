import StructMatch.Proofs.Code.Constructs
import StructMatch.Proofs.Code.Names

/-!
# The members of a matcher file

The constructor, the method for each property and the methods of the matching protocol are read as
their tokens, however they are laid out.
-/

namespace StructMatch.Code

open Layout Source

variable {mode : Mode}

/-- The closure that reads a property. -/
theorem prints_readerDocs {property : String} (h : isCodeWord (fieldWord property) = true) :
    Prints mode true true (readerDocs property)
      (signs "|" ++ word "item" ++ signs "|" ++ referenceTokens "item" (fieldWord property)) := by
  have hbody (mode : Mode) : Prints mode true true
      ([Doc.text "&"] ++ fieldDocs "item" (fieldWord property))
      (referenceTokens "item" (fieldWord property)) :=
    (Prints.text (.marks "&" (by decide))).append (prints_fieldDocs (by decide) h)
  exact prints_closure hbody

theorem flatten_intersperse_cons {α : Type} (separator item : List α) (items : List (List α)) :
    ((item :: items).intersperse separator).flatten =
      item ++ items.flatMap fun next => separator ++ next := by
  induction items generalizing item with
  | nil => simp
  | cons next items ih => simp [List.intersperse_cons_cons, ih]

section Members

variable {spec : MatcherSpec} (hwords : hasCodeWords spec = true) {path : SourcePath}
  {tokens : List Token} (hpath : KeepsTokens path tokens)

include hwords in
theorem isCodeWord_of_mem {name : String} (h : name ∈ codeWords spec) : isCodeWord name = true :=
  List.all_eq_true.1 (Bool.and_eq_true_iff.1 hwords).1 name h

theorem isCodeWord_fieldWord {property : String} (h : isFieldName property = true) :
    isCodeWord (fieldWord property) = true := by
  rw [isFieldName, Bool.and_eq_true] at h
  unfold fieldWord
  split
  · next hreserved =>
      rw [hreserved, Bool.not_true, Bool.false_or] at h
      rw [isCodeWord, String.toList_append]
      simpa [Text.unraw.afterMark] using h.2
  · exact isCodeWord_of_isIdentifier h.1

include hwords hpath

/-- The value of a matcher with a new registry. -/
theorem prints_newMatcher : Prints mode false false
    [.group level true
      ([.group (-level) false [.text "Self"], .text " \x7b", spaceLine,
        .text (spec.registryField.name ++ ": "), .group 0 false (callDocs (path.extend
          [Segment.plain "BeanPropertyMatcher", Segment.plain "new"]) []),
        .line { offset := -level, blanks := 1, before := "," }, .wide]), .text "\x7d"]
    (word "Self" ++ curly (word spec.registryField.name ++ signs ":" ++
      runtimeItem tokens "BeanPropertyMatcher" ++ signs "::" ++ word "new" ++ round [] ++
      signs ",")) := by
  have hself (mode : Mode) : Prints mode true false [.text "Self"] (word "Self") :=
    .text (.word (by decide))
  have hlabel : Spells false false (spec.registryField.name ++ ": ")
      (word spec.registryField.name ++ signs ":") :=
    (Spells.word (isCodeWord_of_mem hwords (by simp [codeWords]))).append
      ((Spells.marks ":" (by decide)).append .blank)
  have hcall (mode : Mode) : Prints mode false false (callDocs (path.extend
      [Segment.plain "BeanPropertyMatcher", Segment.plain "new"]) []) _ :=
    prints_callDocs hpath (by simp) rfl (fun mode => (prints_plain true (by decide)).append
      (Prints.append (.text (.marks "::" (by decide))) (prints_plain true (by decide))))
      fun _ => .nil
  have hfields (mode : Mode) : Prints mode false true
      ([spaceLine] ++ ([Doc.text (spec.registryField.name ++ ": ")] ++ [Doc.group 0 false (callDocs
        (path.extend [Segment.plain "BeanPropertyMatcher", Segment.plain "new"]) [])])) _ :=
    Prints.spaceLine.append ((Prints.text hlabel).append (.group hcall))
  exact (Prints.braced .curly 1 rfl rfl (fun _ => .group hself) fun mode =>
    .lastComma (hfields mode)).of_eq (by simp [runtimeItem, curly])

/-- The constructor. -/
theorem prints_constructorDocs : Prints mode true false (constructorDocs spec path)
    (constructorTokens spec tokens) := by
  have hname : Spells true false ("pub fn " ++ spec.constructorName) _ :=
    (Spells.phrase ["pub", "fn"] (by decide)).append
      (.word (isCodeWord_of_mem hwords (by simp [codeWords])))
  have hself (mode : Mode) : Prints mode true false [.text "Self"] (word "Self") :=
    .text (.word (by decide))
  have hhead (mode : Mode) : Prints mode false false
      (functionHead ("pub fn " ++ spec.constructorName) [] [] (some [.text "Self"]) ++
        [Doc.text " "]) _ :=
    (prints_functionHead hname (by simp) (fun _ => .nil)
      fun mode => .some (hself mode)).append (.text .blank)
  have hbody (mode : Mode) : List.Forall₂ (Prints mode true false) _ _ :=
    .cons (Prints.loose (.statementLine fun _ => prints_newMatcher hwords hpath)) .nil
  exact (Prints.itemWithBody hhead hbody).loose.of_eq (by
    simp [constructorTokens, genericTokens, resultTokens, words, word])

omit hwords in
/-- What the type parameter of a method is bound by. -/
theorem prints_conditionDocs : Prints mode false true (conditionDocs path) (List.flatten
    [words ["where", "M"], signs ":", runtimeItem tokens "Matcher", signs "<", word "dyn",
      runtimeItem tokens "PropertyValue", signs ">", signs "+", lifetimeTokens "static",
      signs ","]) := by
  have hwhere (mode : Mode) : Prints mode true false [.text "where"] (word "where") :=
    .text (.word (by decide))
  have hparameter (mode : Mode) : Prints mode false false [.text "M:"] (word "M" ++ signs ":") :=
    .text ((Spells.word (by decide)).append (.marks ":" (by decide)))
  have hvalue (mode : Mode) : Prints mode true false
      ([Doc.text "dyn "] ++ runtimeType path "PropertyValue") _ :=
    (Prints.text (Spells.phrase ["dyn"] (by decide))).append (prints_runtimeType hpath (by decide))
  have hstatic (mode : Mode) : Prints mode true true [.text "+ 'static"] _ :=
    .text ((Spells.marks "+" (by decide)).append
      (Spells.blank.append (.lifetime "static" (by decide))))
  have hbound (mode : Mode) : Prints mode true true
      ([Doc.text " "] ++ (runtimeType path "Matcher" ++ (([Doc.text "<"] ++
        listItems level [[Doc.text "dyn "] ++ runtimeType path "PropertyValue"] ++
          [Doc.text ">"]) ++ ([spaceLine] ++ [Doc.text "+ 'static"])))) _ :=
    (Prints.text .blank).append ((prints_runtimeType hpath (by decide)).append
      ((Prints.inAngles (.marks "<" (by decide)) fun mode => .cons (hvalue mode) .nil).append
        (Prints.spaceLine.append (hstatic mode))))
  have hcomma (mode : Mode) : Prints mode false true [.text ","] (signs ",") :=
    .text (.marks "," (by decide))
  have hdocs : conditionDocs path = [closingLine] ++ ([Doc.text "where"] ++ ([hardLine] ++
      ([Doc.text "M:"] ++ ([Doc.group level false ([Doc.text " "] ++ (runtimeType path "Matcher" ++
        (([Doc.text "<"] ++
          listItems level [[Doc.text "dyn "] ++ runtimeType path "PropertyValue"] ++
            [Doc.text ">"]) ++ ([spaceLine] ++ [Doc.text "+ 'static"]))))] ++
        ([Doc.text ","] ++ [closingLine]))))) := by
    simp [conditionDocs, arguments]
  rw [hdocs]
  exact (Prints.closingLine.append ((hwhere mode).append (Prints.hardLine.append
    ((hparameter mode).append ((Prints.group hbound).append ((hcomma mode).append
      .closingLine)))))).of_eq (by simp [words, word])

omit hpath in
/-- The call that registers a property. -/
theorem prints_registrationDocs {method : PropertyMethod}
    (hmethod : method ∈ spec.propertyMethods) :
    Prints mode false false (registrationDocs spec method) (word "self" ++ (signs "." ++
      word spec.registryField.name) ++ (signs "." ++ word "with") ++ round ([textLiteral
        method.property] ++ signs "," ++ (signs "|" ++ word "item" ++ signs "|" ++
          referenceTokens "item" (fieldWord method.property)) ++ signs "," ++
            word method.parameter) ++ signs ";") := by
  have hfield : isCodeWord spec.registryField.name = true :=
    isCodeWord_of_mem hwords (by simp [codeWords])
  have hparameter : isCodeWord method.parameter = true :=
    isCodeWord_of_mem hwords (List.mem_append_left _ (List.mem_append_right _
      (List.mem_flatMap.2 ⟨method, hmethod, by simp⟩)))
  have hproperty : isCodeWord (fieldWord method.property) = true :=
    isCodeWord_fieldWord (List.all_eq_true.1 (Bool.and_eq_true_iff.1 hwords).2 method hmethod)
  have hitems (mode : Mode) : List.Forall₂ (Prints mode true false)
      [[.text (Text.literal method.property)], readerDocs method.property,
        [.text method.parameter]] _ :=
    .cons (.text (.literal _)) (.cons (prints_readerDocs hproperty).loose
      (.cons (.text (.word hparameter)) .nil))
  have hself (mode : Mode) : Prints mode true false [.text "self"] (word "self") :=
    .text (.word (by decide))
  have hregistry (mode : Mode) : Prints mode true true [.text ("." ++ spec.registryField.name)] _ :=
    .text ((Spells.marks "." (by decide)).append (.word hfield))
  have hwith (mode : Mode) : Prints mode true true [.text ".with"] (signs "." ++ word "with") :=
    .text ((Spells.marks "." (by decide)).append (.word (by decide)))
  have harguments (mode : Mode) : Prints mode false true ([Doc.text "("] ++ arguments
      [[.text (Text.literal method.property)], readerDocs method.property,
        [.text method.parameter]] ++ [Doc.text ")"]) _ :=
    .inBrackets .round 0 rfl rfl (.list hitems)
  have hcall (mode : Mode) : Prints mode false false ([Doc.group (-level) true [.text "self"]] ++
      ([Doc.text ("." ++ spec.registryField.name)] ++ ([softLine] ++ ([Doc.text ".with"] ++
        [Doc.group 0 true ([Doc.text "("] ++ arguments [[.text (Text.literal method.property)],
          readerDocs method.property, [.text method.parameter]] ++ [Doc.text ")"])])))) _ :=
    (Prints.group hself).append ((hregistry mode).append ((Prints.softLine true).append
      ((hwith mode).append (.group harguments))))
  have hend : Prints mode false true [.text ";"] (signs ";") := .text (.marks ";" (by decide))
  exact ((Prints.group hcall).append hend).of_eq (by simp [round])

/-- The method for a property. -/
theorem prints_propertyMethodDocs {method : PropertyMethod}
    (hmethod : method ∈ spec.propertyMethods) :
    Prints mode true false (propertyMethodDocs spec path method)
      (propertyMethodTokens spec tokens method) := by
  have hmem {name : String} (h : name ∈ [method.name, method.parameter]) :
      isCodeWord name = true :=
    isCodeWord_of_mem hwords (List.mem_append_left _ (List.mem_append_right _
      (List.mem_flatMap.2 ⟨method, hmethod, h⟩)))
  have hname : Spells true false ("pub fn " ++ method.name) _ :=
    (Spells.phrase ["pub", "fn"] (by decide)).append (.word (hmem (by simp)))
  have hself (text : String) (h : isCodeWord text = true) (mode : Mode) :
      Prints mode true false [.text text] (word text) := .text (.word h)
  have hreceiver : Spells true false "mut self" (words ["mut", "self"]) :=
    (Spells.phrase ["mut"] (by decide)).append (.word (by decide))
  have hparameter : Spells true false (method.parameter ++ ": M")
      (word method.parameter ++ (signs ":" ++ word "M")) :=
    (Spells.word (hmem (by simp))).append ((Spells.marks ":" (by decide)).append
      (Spells.blank.append (.word (by decide))))
  have hhead (mode : Mode) : Prints mode false false (functionHead ("pub fn " ++ method.name) ["M"]
      [[.text "mut self"], [.text (method.parameter ++ ": M")]] (some [.text "Self"]) ++
        conditionDocs path) _ :=
    (prints_functionHead hname (by decide)
      (fun _ => .cons (.text hreceiver) (.cons (.text hparameter) .nil))
      fun mode => .some (hself "Self" (by decide) mode)).append (prints_conditionDocs hpath)
  have hbody (mode : Mode) : List.Forall₂ (Prints mode true false) _ _ :=
    .cons (Prints.loose (.statementLine fun _ => prints_registrationDocs hwords hmethod))
      (.cons (.statementLine (hself "self" (by decide))) .nil)
  rw [propertyMethodDocs_eq]
  exact (Prints.itemWithBody hhead hbody).loose.of_eq (by
    simp [propertyMethodTokens, genericTokens, resultTokens, referenceTokens, words, word])

/-- The call of the registry that a method of the matching protocol forwards to. -/
theorem prints_forwardingDocs {method : ProtocolMethod}
    (hmethod : method ∈ spec.protocolMethods)
    {names : List String} (hnames : ∀ name ∈ names, isCodeWord name = true) :
    Prints mode false false
      (callDocs (path.extend [typedSegment "Matcher" spec.target.name,
        Segment.plain method.operation.delegate])
          ((Doc.text "&" :: fieldDocs "self" method.field) :: names.map fun n => [.text n]))
      (List.flatten [runtimeItem tokens "Matcher", signs "::", signs "<", word spec.target.name,
        signs ">", signs "::", word method.operation.delegate, round (List.flatten
          [signs "&", word "self", signs ".", word method.field,
            names.flatMap fun name => signs "," ++ word name])]) := by
  have htarget : isCodeWord spec.target.name = true :=
    isCodeWord_of_mem hwords (by simp [codeWords])
  have hfield : isCodeWord method.field = true := isCodeWord_of_mem hwords
    (List.mem_append_right _ (List.mem_map.2 ⟨method, hmethod, rfl⟩))
  have hdelegate : isCodeWord method.operation.delegate = true := by
    cases method.operation <;> decide
  have hsegments (mode : Mode) : Prints mode true false (segmentDocsAll true
      [typedSegment "Matcher" spec.target.name, Segment.plain method.operation.delegate]) _ :=
    (prints_typedSegment true (by decide) htarget).append
      (Prints.append (.text (.marks "::" (by decide))) (prints_plain true hdelegate))
  have hregistry (mode : Mode) : Prints mode true false
      ([Doc.text "&"] ++ fieldDocs "self" method.field) _ :=
    Prints.loose ((Prints.text (.marks "&" (by decide))).append
      (prints_fieldDocs (by decide) hfield))
  have hitems (mode : Mode) : List.Forall₂ (Prints mode true false)
      (([Doc.text "&"] ++ fieldDocs "self" method.field) :: names.map fun n => [.text n])
      ((signs "&" ++ (word "self" ++ signs "." ++ word method.field)) :: names.map word) := by
    refine .cons (hregistry mode) ?_
    rw [List.forall₂_map_left_iff, List.forall₂_map_right_iff, List.forall₂_same]
    exact fun name hname => .text (.word (hnames name hname))
  have hcall : Prints mode false false _ _ :=
    prints_callDocs hpath (by simp) rfl hsegments hitems
  exact hcall.of_eq (by simp [flatten_intersperse_cons, runtimeItem, List.flatMap_map])

/-- A method that forwards to the registry, for each kind of parameters, result and end. -/
theorem prints_forwardingMethod {method : ProtocolMethod}
    (hmethod : method ∈ spec.protocolMethods)
    {parameters : List (List Doc)} {parameterTokens : List (List Token)}
    (hparameters : ∀ mode, List.Forall₂ (Prints mode true false) parameters parameterTokens)
    {result : Option (List Doc)} {typeTokens : Option (List Token)}
    (hresult : ∀ mode, Option.Rel (Prints mode true false) result typeTokens)
    (names : List String) (hnames : ∀ name ∈ names, isCodeWord name = true) (semicolon : Bool) :
    Prints mode true false
      (itemWithBody
        (functionHead ("fn " ++ method.operation.methodName) [] ([.text "&self"] :: parameters)
          result ++ [Doc.text " "])
        [statementLine (callDocs (path.extend [typedSegment "Matcher" spec.target.name,
          Segment.plain method.operation.delegate])
            ((Doc.text "&" :: fieldDocs "self" method.field) :: names.map fun n => [.text n]) ++
          if semicolon then [Doc.text ";"] else [])])
      (List.flatten [words ["fn"], word method.operation.methodName, round (signs "&" ++
        word "self" ++ parameterTokens.flatMap fun next => signs "," ++ next),
        resultTokens typeTokens, curly (List.flatten [runtimeItem tokens "Matcher", signs "::",
          signs "<", word spec.target.name, signs ">", signs "::",
          word method.operation.delegate, round (List.flatten [signs "&", word "self", signs ".",
            word method.field, names.flatMap fun name => signs "," ++ word name]),
          if semicolon then signs ";" else []])]) := by
  have hname : Spells true false ("fn " ++ method.operation.methodName) _ :=
    (Spells.phrase ["fn"] (by decide)).append (.word (by cases method.operation <;> decide))
  have hreceiver (mode : Mode) : Prints mode true true [.text "&self"] (signs "&" ++ word "self") :=
    .text ((Spells.marks "&" (by decide)).append (.word (by decide)))
  have hhead (mode : Mode) : Prints mode false false (functionHead
      ("fn " ++ method.operation.methodName) [] ([.text "&self"] :: parameters) result ++
        [Doc.text " "]) _ :=
    (prints_functionHead hname (by simp)
      (fun mode => .cons (hreceiver mode).loose (hparameters mode)) hresult).append (.text .blank)
  have hend (mode : Mode) : Prints mode false false (if semicolon then [Doc.text ";"] else [])
      (if semicolon then signs ";" else []) := by
    cases semicolon with
    | false => exact .nil
    | true => exact (Prints.text (.marks ";" (by decide))).mono (by decide) (by decide)
  have hcall (mode : Mode) : Prints mode false false _ _ :=
    (prints_forwardingDocs hwords hpath hmethod hnames).append (hend mode)
  have hbody (mode : Mode) : List.Forall₂ (Prints mode true false) _ _ :=
    .cons (Prints.loose (.statementLine hcall)) .nil
  exact (Prints.itemWithBody hhead hbody).loose.of_eq (by
    simp [flatten_intersperse_cons, genericTokens, words, word])

/-- A method of the matching protocol. -/
theorem prints_protocolMethodDocs {method : ProtocolMethod}
    (hmethod : method ∈ spec.protocolMethods) :
    Prints mode true false (protocolMethodDocs spec path method)
      (protocolMethodTokens spec tokens method) := by
  have hlabel : Spells false false ("description" ++ (":" ++ (" " ++ ("&" ++ "mut "))))
      (word "description" ++ (signs ":" ++ (signs "&" ++ words ["mut"]))) :=
    (Spells.word (by decide)).append ((Spells.marks ":" (by decide)).append (Spells.blank.append
      ((Spells.marks "&" (by decide)).append (Spells.phrase ["mut"] (by decide)))))
  have htarget : Spells true false ("item" ++ (":" ++ (" " ++ ("&" ++ spec.target.name))))
      (word "item" ++ (signs ":" ++ (signs "&" ++ word spec.target.name))) :=
    (Spells.word (by decide)).append ((Spells.marks ":" (by decide)).append (Spells.blank.append
      ((Spells.marks "&" (by decide)).append
        (.word (isCodeWord_of_mem hwords (by simp [codeWords]))))))
  have hdescription (mode : Mode) : Prints mode true false
      (Doc.text "description: &mut " :: runtimeType path "Description") _ :=
    Prints.append (.text hlabel) (prints_runtimeType hpath (by decide))
  have hitem (mode : Mode) : Prints mode true false [.text ("item: &" ++ spec.target.name)] _ :=
    .text (String.append_assoc ▸ htarget)
  have hbool (mode : Mode) : Prints mode true false [.text "bool"] (word "bool") :=
    .text (.word (by decide))
  have hcall : callIsAssignment (path.extend [typedSegment "Matcher" spec.target.name,
      Segment.plain method.operation.delegate]) = false := by
    have hnone : unmarkedChoice? (path.extend [typedSegment "Matcher" spec.target.name,
        Segment.plain method.operation.delegate]).segments = none :=
      unmarkedChoice?_append hpath.isCall rfl
    rw [callIsAssignment, hnone, Option.isSome_none]
  obtain ⟨operation, field⟩ := method
  cases operation with
  | describeTo =>
      exact (prints_forwardingMethod hwords hpath hmethod
        (fun mode => .cons (hdescription mode) .nil) (fun _ => .none) ["description"] (by decide)
        true).of_eq (by simp [protocolMethodTokens, resultTokens, words, word])
  | matchesSafely =>
      exact (prints_forwardingMethod hwords hpath hmethod (fun mode => .cons (hitem mode) .nil)
        (fun mode => .some (hbool mode)) ["item"] (by decide) (callIsAssignment _)).of_eq (by
          simp [hcall, protocolMethodTokens, resultTokens, words, word])
  | describeMismatchSafely =>
      exact (prints_forwardingMethod hwords hpath hmethod
        (fun mode => .cons (hitem mode) (.cons (hdescription mode) .nil)) (fun _ => .none)
        ["item", "description"] (by decide) true).of_eq (by
          simp [protocolMethodTokens, resultTokens, words, word])

end Members

end StructMatch.Code
