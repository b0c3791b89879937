import StructMatch.Proofs.Code.WellFormed
import StructMatch.Proofs.Text.Identifier

/-!
# The names of a matcher

The specification of a type with given properties takes all of its names from those of the type and
the properties.  They are identifiers, so all of them can stand in the code, unless a property goes
by a word that no field can be read by, `hasCodeWords_build_iff`.  None of them is reserved except
the name of the type itself and those of properties, which are marked, so the code is well formed as
long as the name of the type is not reserved, `hasNames_build`.
-/

namespace StructMatch.Code

open Source Text

variable {name property : String} {naming : Naming}

/-! ## Identifiers as words -/

theorem afterMark_of_isIdentifier {cs : List Char} (h : isIdentifier cs = true) :
    unraw.afterMark cs = none := by
  have hmark : '#' ∉ cs := notMem_of_isIdentifier h (by decide) (by decide)
  unfold unraw.afterMark
  split
  · simp at hmark
  · rfl

theorem unraw_of_isIdentifier (h : isIdentifier name.toList = true) : unraw name = name := by
  rw [unraw, afterMark_of_isIdentifier h]

theorem isCodeWord_of_isIdentifier (h : isIdentifier name.toList = true) :
    isCodeWord name = true := by
  rw [isCodeWord, afterMark_of_isIdentifier h]
  exact h

theorem isName_of_isIdentifier (hword : isIdentifier name.toList = true)
    (hreserved : isReserved name = false) : IsName name :=
  ⟨hreserved, by rwa [unraw_of_isIdentifier hword]⟩

/-! ## Reserved words -/

theorem isReserved_eq_false_of_notMem (h : name ∉ reservedWords) : isReserved name = false := by
  rwa [isReserved, List.contains_eq_mem, decide_eq_false_iff_not]

/-- No reserved word begins like the methods and the factory of a matcher, or like a raw word. -/
theorem not_prefix_of_mem_reservedWords : ∀ word ∈ reservedWords,
    ∀ start ∈ ["with", "is", "r#"], ¬ start.toList <+: word.toList := by
  decide

/-- No reserved word ends like the class of a matcher. -/
theorem not_suffix_of_mem_reservedWords :
    ∀ word ∈ reservedWords, ¬ "Matcher".toList <:+ word.toList := by
  decide

theorem isReserved_append_of_start {start : String} (h : start ∈ ["with", "is", "r#"]) :
    isReserved (start ++ name) = false := by
  refine isReserved_eq_false_of_notMem fun hmem => ?_
  refine not_prefix_of_mem_reservedWords _ hmem start h ?_
  rw [String.toList_append]
  exact List.prefix_append _ _

theorem isReserved_className : isReserved (name ++ "Matcher") = false := by
  refine isReserved_eq_false_of_notMem fun hmem => ?_
  refine not_suffix_of_mem_reservedWords _ hmem ?_
  rw [String.toList_append]
  exact List.suffix_append _ _

/-! ## Names in a style -/

theorem isIdentifier_className (h : isIdentifier name.toList = true) :
    isIdentifier (name ++ "Matcher").toList = true := by
  rw [String.toList_append]
  have hall : "Matcher".toList.all isIdentContinue = true := by decide
  exact isIdentifier_append h (List.all_eq_true.1 hall)

theorem isIdentifier_propertyMethod (h : isIdentifier property.toList = true) :
    isIdentifier (naming.propertyMethod property).toList = true := by
  have hcontinue : ∀ c ∈ property.toList, isIdentContinue c = true :=
    fun c hc => isIdentContinue_of_mem h hc
  cases naming with
  | snake =>
      rw [Naming.propertyMethod, String.toList_append]
      exact isIdentifier_append (by decide) hcontinue
  | camel =>
      rw [Naming.propertyMethod, String.toList_append]
      exact isIdentifier_append (by decide) fun _ => isIdentContinue_of_mem_capitalize hcontinue

theorem isReserved_propertyMethod : isReserved (naming.propertyMethod property) = false := by
  cases naming with
  | snake =>
      have hstart : "with_" ++ property = "with" ++ ("_" ++ property) := by
        rw [← String.append_assoc]
        rfl
      rw [Naming.propertyMethod, hstart]
      exact isReserved_append_of_start (by decide)
  | camel => exact isReserved_append_of_start (by decide)

theorem isIdentifier_factory (h : isIdentifier name.toList = true) :
    isIdentifier (naming.factory name).toList = true := by
  have hcontinue : ∀ c ∈ name.toList, isIdentContinue c = true :=
    fun c hc => isIdentContinue_of_mem h hc
  cases naming with
  | snake =>
      rw [Naming.factory, String.toList_append]
      exact isIdentifier_append (by decide) fun _ => isIdentContinue_of_mem_snakeCase hcontinue
  | camel =>
      rw [Naming.factory, String.toList_append]
      exact isIdentifier_append (by decide) hcontinue

theorem isReserved_factory : isReserved (naming.factory name) = false := by
  cases naming with
  | snake =>
      have hstart : "is_" ++ snakeCase name = "is" ++ ("_" ++ snakeCase name) := by
        rw [← String.append_assoc]
        rfl
      rw [Naming.factory, hstart]
      exact isReserved_append_of_start (by decide)
  | camel => exact isReserved_append_of_start (by decide)

/-! ## Properties as fields -/

/-- A property can be read as a field unless it goes by a word that cannot be marked as raw. -/
theorem isFieldName_iff (h : isIdentifier property.toList = true) :
    isFieldName property = true ↔ property ∉ pathWords := by
  have hreserved : property ∈ pathWords → isReserved property = true := by
    intro hmem
    have hall : ∀ word ∈ pathWords, isReserved word = true := by decide
    exact hall property hmem
  rw [isFieldName, isRawIdentifier, h, Bool.true_and, Bool.true_and, Bool.or_eq_true,
    Bool.not_eq_true', Bool.not_eq_true', List.contains_eq_mem, decide_eq_false_iff_not]
  refine ⟨?_, Or.inr⟩
  rintro (hplain | hraw)
  · intro hmem
    rw [hreserved hmem] at hplain
    exact absurd hplain (by decide)
  · exact hraw

theorem isName_fieldWord (h : isIdentifier property.toList = true) :
    IsName (fieldWord property) := by
  unfold fieldWord
  split
  · refine ⟨isReserved_append_of_start (by decide), ?_⟩
    have hunraw : unraw ("r#" ++ property) = property := by
      rw [unraw, String.toList_append]
      exact String.ofList_toList
    rwa [hunraw]
  · next hplain => exact isName_of_isIdentifier h (Bool.eq_false_iff.2 hplain)

/-! ## Specifications of types -/

section Build

variable {generatorName : String} {type : StructType} {properties : List String}
  (hname : isIdentifier type.name.toList = true)
  (hproperties : ∀ property ∈ properties, isIdentifier property.toList = true)
include hname hproperties

/-- All names can stand in the code just when all properties can be read as fields. -/
theorem hasCodeWords_build_iff :
    hasCodeWords (MatcherSpec.build naming generatorName type properties) = true ↔
      ∀ property ∈ properties, property ∉ pathWords := by
  have hfixed : ∀ word ∈ ["bean_property_matcher", "new", "matcher"], isCodeWord word = true := by
    decide
  have hwords : (codeWords (MatcherSpec.build naming generatorName type properties)).all
      isCodeWord = true := by
    rw [List.all_eq_true]
    intro word hword
    simp only [codeWords, MatcherSpec.build, List.mem_append, List.mem_cons, List.not_mem_nil,
      or_false, List.mem_flatMap, List.mem_map] at hword
    rcases hword with (hword | ⟨method, ⟨property, hmem, rfl⟩, hword⟩) | ⟨method, hmethod, rfl⟩
    · rcases hword with rfl | rfl | rfl | rfl | rfl | rfl | rfl
      · exact isCodeWord_of_isIdentifier hname
      · exact isCodeWord_of_isIdentifier (isIdentifier_className hname)
      · exact hfixed _ (by simp)
      · exact isCodeWord_of_isIdentifier hname
      · exact hfixed _ (by simp)
      · exact isCodeWord_of_isIdentifier (isIdentifier_factory hname)
      · exact isCodeWord_of_isIdentifier (isIdentifier_className hname)
    · rcases hword with rfl | rfl
      · exact isCodeWord_of_isIdentifier (isIdentifier_propertyMethod (hproperties property hmem))
      · exact hfixed _ (by simp)
    · obtain ⟨operation, -, rfl⟩ := hmethod
      exact hfixed _ (by simp)
  rw [hasCodeWords, hwords, Bool.true_and, MatcherSpec.build, List.all_map, List.all_eq_true]
  exact forall₂_congr fun property hmem => isFieldName_iff (hproperties property hmem)

omit hname hproperties in
theorem isName_registry : IsName "bean_property_matcher" := by
  decide

/-- No name but that of the type can be reserved. -/
theorem hasNames_build (hreserved : isReserved type.name = false) :
    HasNames (MatcherSpec.build naming generatorName type properties) where
  target := isName_of_isIdentifier hname hreserved
  className := isName_of_isIdentifier (isIdentifier_className hname) isReserved_className
  field := isName_registry
  fieldTarget := isName_of_isIdentifier hname hreserved
  constructorName := show IsName "new" by decide
  factory := isName_of_isIdentifier (isIdentifier_factory hname) isReserved_factory
  returns := isName_of_isIdentifier (isIdentifier_className hname) isReserved_className
  propertyMethods := by
    intro method hmethod
    obtain ⟨property, hmem, rfl⟩ := List.mem_map.1 hmethod
    have hproperty := hproperties property hmem
    exact ⟨isName_of_isIdentifier (isIdentifier_propertyMethod hproperty) isReserved_propertyMethod,
      show IsName "matcher" by decide, isName_fieldWord hproperty⟩
  protocolMethods := by
    intro method hmethod
    obtain ⟨operation, -, rfl⟩ := List.mem_map.1 hmethod
    exact isName_registry

end Build

end StructMatch.Code
