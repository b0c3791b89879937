import StructMatch.Proofs.Code.Names
import StructMatch.Proofs.Code.Rendering
import StructMatch.Proofs.Code.Sections
import StructMatch.Proofs.Text.Literal

/-!
# Matchers of different properties

The text of a matcher file tells which properties it has methods for, and in which order.
-/

namespace StructMatch.Code

open Layout Source

/-! ## The method for a property -/

section Method

variable (spec : MatcherSpec) (runtime : SourcePath)

/-- What stands between the name of a method and its body. -/
def afterMethodName (parameter : String) : List Doc :=
  List.flatten
    [[.text "<"], listItems 0 [[.text "M"]], [.text ">", .text "(", .line { mayEnd := false }],
      listItems 0 [[.text "mut self"], [.text (parameter ++ ": M")]],
      [.text ")", .group (-level) true [.text " -> ", .text "Self"]], conditionDocs runtime]

theorem methodHead_eq (name parameter : String) :
    functionHead ("pub fn " ++ name) ["M"] [[.text "mut self"], [.text (parameter ++ ": M")]]
        (some [.text "Self"]) ++ conditionDocs runtime =
      .text ("pub fn " ++ name) :: afterMethodName runtime parameter := by
  simp [functionHead, afterMethodName]

/-- The text of a method up to its body. -/
def methodHeadText (name parameter : String) : String :=
  (layOutAll codePage .together (level + level) 0
    (.text ("pub fn " ++ name) :: afterMethodName runtime parameter ++ [Doc.text "\x7b"])
    (freshLine codePage level)).text

/-- A method begins with its name, which ends where its type parameters begin. -/
theorem exists_methodHeadText (name parameter : String) : ∃ rest,
    methodHeadText runtime name parameter = "    pub fn " ++ name ++ "<" ++ rest := by
  obtain ⟨rest, hrest⟩ := exists_text_layOutAll codePage
    ((afterMethodName runtime parameter).tail ++ [Doc.text "\x7b"]) .together (level + level) 0
    (((freshLine codePage level).write ("pub fn " ++ name)).write "<")
  refine ⟨rest, ?_⟩
  have hindent : String.ofList (List.replicate (freshLine codePage level).pending ' ') = "    " :=
    rfl
  have hstart : (freshLine codePage level).text = "" := rfl
  have hwrite : methodHeadText runtime name parameter =
      (((freshLine codePage level).write ("pub fn " ++ name)).write "<").text ++ rest := hrest
  rw [hwrite]
  simp only [Sheet.write, hindent, hstart, List.replicate_zero, String.ofList_nil,
    String.append_empty, String.empty_append, String.append_assoc]
  rfl

variable {spec} in
/-- The first quote in the body of a method is that of the literal of its property. -/
theorem leadsTo_registrationDocs (hfield : '"' ∉ spec.registryField.name.toList)
    (method : PropertyMethod) :
    LeadsTo '"' (Text.literal method.property) (statementLine (registrationDocs spec method)) := by
  have hsoft : softLine.Lacks '"' := ⟨by decide, by decide⟩
  have htext {text : String} (h : '"' ∉ text.toList) : (Doc.text text).Lacks '"' := h
  have hself : (Doc.group (-level) true [.text "self"]).Lacks '"' := ⟨htext (by decide), trivial⟩
  have harguments {docs : List Doc} {more : List (List Doc)} :
      LeadsTo '"' (Text.literal method.property)
        (arguments ((.text (Text.literal method.property) :: docs) :: more)) := by
    refine .inside _ (.past hsoft ?_)
    cases more with
    | nil => exact .here _
    | cons next more => exact .here _
  refine .inside _ (.inside _ (.past hself (.past (htext ?_) (.past hsoft (.past (htext ?_)
    (.inside _ (.past (htext ?_) (harguments.append _))))))))
  · simpa using hfield
  · decide
  · decide

/-- The text of a method has the literal of its property where the first quote after its head is. -/
theorem exists_memberText_propertyMethod (hfield : '"' ∉ spec.registryField.name.toList)
    (method : PropertyMethod) : ∃ before after,
      memberText level (propertyMethodDocs spec runtime method) =
        methodHeadText runtime method.name method.parameter ++ before ++
          Text.literal method.property ++ after ∧ '"' ∉ before.toList := by
  obtain ⟨before, after, htext, hbefore⟩ : ∃ before after,
      memberText (level + level) (statementLine (registrationDocs spec method)) =
        before ++ Text.literal method.property ++ after ∧ '"' ∉ before.toList :=
    (leadsTo_registrationDocs hfield method).exists_text (by decide) (by decide) (by decide)
  refine ⟨"\n" ++ before, after ++ membersText (level + level) [statementLine [.text "self"]] ++
    "\n" ++ ((freshLine codePage level).write "\x7d").text, ?_, by simpa using hbefore⟩
  rw [memberText, propertyMethodDocs_eq, methodHead_eq,
    layOutAll_itemWithBody _ _ _ _ (by simp) (by decide)]
  simp only [Sheet.text_below, membersText, htext, String.append_assoc]
  rfl

end Method

/-! ## Matchers with the same text -/

theorem append_cons_inj {α : Type} {a : α} {xs xs' ys ys' : List α} (h : a ∉ xs) (h' : a ∉ xs') :
    xs ++ a :: ys = xs' ++ a :: ys' ↔ xs = xs' ∧ ys = ys' := by
  refine ⟨fun heq => ?_, by rintro ⟨rfl, rfl⟩; rfl⟩
  induction xs generalizing xs' with
  | nil =>
      cases xs' with
      | nil => exact ⟨rfl, (List.cons_eq_cons.1 heq).2⟩
      | cons x xs' => exact absurd (List.cons_eq_cons.1 heq).1 (fun hx => h' (by simp [hx]))
  | cons x xs ih =>
      cases xs' with
      | nil => exact absurd (List.cons_eq_cons.1 heq).1 (fun hx => h (by simp [hx]))
      | cons x' xs' =>
          rw [List.mem_cons, not_or] at h h'
          obtain ⟨rfl, hrest⟩ := List.cons_eq_cons.1 heq
          obtain ⟨rfl, hys⟩ := ih h.2 h'.2 hrest
          exact ⟨rfl, hys⟩

theorem toList_literal (text : String) :
    (Text.literal text).toList = '"' :: (Text.literalBody text.toList ++ ['"']) := by
  simp [Text.literal]

section Methods

variable {spec : MatcherSpec} {runtime : SourcePath} {parameter : String}

/-- Methods whose texts begin alike are the same. -/
theorem method_eq_of_memberText_eq {method method' : PropertyMethod}
    (hfield : '"' ∉ spec.registryField.name.toList)
    (hname : '<' ∉ method.name.toList ∧ method.parameter = parameter)
    (hname' : '<' ∉ method'.name.toList ∧ method'.parameter = parameter) {more more' : String}
    (h : memberText level (propertyMethodDocs spec runtime method) ++ more =
      memberText level (propertyMethodDocs spec runtime method') ++ more') : method = method' := by
  obtain ⟨name, property, parameter⟩ := method
  obtain ⟨name', property', parameter'⟩ := method'
  obtain ⟨hname, rfl⟩ := hname
  obtain ⟨hname', rfl⟩ := hname'
  obtain ⟨before, after, htext, hbefore⟩ :=
    exists_memberText_propertyMethod spec runtime hfield ⟨name, property, parameter'⟩
  obtain ⟨before', after', htext', hbefore'⟩ :=
    exists_memberText_propertyMethod spec runtime hfield ⟨name', property', parameter'⟩
  rw [htext, htext'] at h
  -- the names end where the same sign stands
  have hnames : name = name' := by
    obtain ⟨rest, hhead⟩ := exists_methodHeadText runtime name parameter'
    obtain ⟨rest', hhead'⟩ := exists_methodHeadText runtime name' parameter'
    rw [hhead, hhead'] at h
    have hlists := congrArg String.toList h
    simp only [String.toList_append, List.append_assoc, List.append_cancel_left_eq] at hlists
    exact String.toList_injective ((append_cons_inj hname hname').1 hlists).1
  -- so they are followed by the same text up to the first quote of the body
  subst hnames
  have hlists := congrArg String.toList h
  simp only [String.toList_append, List.append_assoc, List.append_cancel_left_eq,
    toList_literal, List.cons_append, List.nil_append] at hlists
  rw [String.toList_injective (Text.literalBody_inj
    ((append_cons_inj hbefore hbefore').1 hlists).2)]

/-- The text of methods after one another tells which ones they are. -/
theorem methods_eq_of_membersText_eq {methods methods' : List PropertyMethod}
    (hfield : '"' ∉ spec.registryField.name.toList)
    (hmethods : ∀ method ∈ methods, '<' ∉ method.name.toList ∧ method.parameter = parameter)
    (hmethods' : ∀ method ∈ methods', '<' ∉ method.name.toList ∧ method.parameter = parameter)
    (h : membersText level (methods.map (propertyMethodDocs spec runtime)) =
      membersText level (methods'.map (propertyMethodDocs spec runtime))) : methods = methods' := by
  have hcons (member : List Doc) (rest : List (List Doc)) :
      membersText level (member :: rest) ≠ "" := by
    intro hempty
    have hlists := congrArg String.toList hempty
    simp [membersText] at hlists
  induction methods generalizing methods' with
  | nil =>
      cases methods' with
      | nil => rfl
      | cons method' rest' => exact absurd h.symm (hcons _ _)
  | cons method rest ih =>
      cases methods' with
      | nil => exact absurd h (hcons _ _)
      | cons method' rest' =>
          rw [List.forall_mem_cons] at hmethods hmethods'
          simp only [List.map_cons, membersText, String.append_assoc, String.append_right_inj] at h
          obtain rfl := method_eq_of_memberText_eq hfield hmethods.1 hmethods'.1 h
          rw [String.append_right_inj] at h
          rw [ih hmethods.2 hmethods'.2 h]

end Methods

/-! ## Specifications with the same text -/

section Build

variable {naming : Naming} {generatorName : String} {type : StructType} {runtime : String}
  {properties : List String} {source : String}

/-- The methods of a specification that can be rendered are named by identifiers. -/
theorem notMem_propertyMethod (hwords : hasCodeWords
      (MatcherSpec.build naming generatorName type properties) = true) :
    ∀ method ∈ (MatcherSpec.build naming generatorName type properties).propertyMethods,
      '<' ∉ method.name.toList ∧ method.parameter = "matcher" := by
  intro method hmethod
  obtain ⟨property, hmem, rfl⟩ := List.mem_map.1 hmethod
  have hfields := (Bool.and_eq_true_iff.1 hwords).2
  have hfield := List.all_eq_true.1 hfields _ hmethod
  have hidentifier : Text.isIdentifier (naming.propertyMethod property).toList = true :=
    isIdentifier_propertyMethod (Bool.and_eq_true_iff.1 hfield).1
  exact ⟨notMem_of_isIdentifier hidentifier (by decide) (by decide), rfl⟩

/-- Specifications of a type that are rendered to the same text have the same properties. -/
theorem properties_eq_of_render_eq {properties' : List String}
    (h : (MatcherSpec.build naming generatorName type properties).render runtime = .ok source)
    (h' : (MatcherSpec.build naming generatorName type properties').render runtime = .ok source) :
    properties = properties' := by
  obtain ⟨path, tokens, hpath, hwords, rfl⟩ := MatcherSpec.render_eq_ok h
  obtain ⟨path', tokens', hpath', hwords', hsource⟩ := MatcherSpec.render_eq_ok h'
  obtain ⟨rfl, rfl⟩ := Prod.mk.inj (Option.some.inj (hpath.symm.trans hpath'))
  have hheader : (MatcherSpec.build naming generatorName type properties').provenance =
      (MatcherSpec.build naming generatorName type properties).provenance := rfl
  have hbefore : textBefore (MatcherSpec.build naming generatorName type properties') path =
      textBefore (MatcherSpec.build naming generatorName type properties) path := rfl
  have hafter : textAfter (MatcherSpec.build naming generatorName type properties') path =
      textAfter (MatcherSpec.build naming generatorName type properties) path := rfl
  have hmethod :
      propertyMethodDocs (MatcherSpec.build naming generatorName type properties') path =
        propertyMethodDocs (MatcherSpec.build naming generatorName type properties) path := rfl
  rw [hheader, String.append_right_inj, render_fileDoc, render_fileDoc, hbefore, hafter, hmethod,
    String.append_left_inj, String.append_right_inj] at hsource
  have hmethods := methods_eq_of_membersText_eq
    (show '"' ∉ "bean_property_matcher".toList by decide) (notMem_propertyMethod hwords)
    (notMem_propertyMethod hwords') hsource
  have hproperties := congrArg (List.map PropertyMethod.property) hmethods
  simpa [MatcherSpec.build, Function.comp_def] using hproperties

end Build

end StructMatch.Code
