import StructMatch.Proofs.Code.Reading

/-!
# The code of a matcher is well formed

The code of every specification whose names can be names is read as a file that holds nothing
verbatim, wherever the runtime is found.
-/

namespace StructMatch.Code

open Source Parse

variable {ts rest : List Token} {name field : String} {depth d : Nat} {sums : Bool}
  {runtime : PathPrefix}

/-! ## Statements -/

theorem readsFrom_statements_last (hbegins : BeginsExpression ts)
    (h : ReadsFrom (depth + 1) (.operand true) ts [] .other) :
    ReadsFrom (depth + 3) .statements ts [] () :=
  readsFrom_succ fun d hd =>
    reads_statements_one hbegins (reads_statement_last hbegins
      (readsFrom_statementExpression hbegins.pathStart h .nil d hd))

theorem readsFrom_statements_semicolon (hbegins : BeginsExpression ts)
    (h : ReadsFrom (depth + 1) (.operand true) ts [.sign ';' false] .other) :
    ReadsFrom (depth + 3) .statements ts [] () :=
  readsFrom_succ fun d hd =>
    reads_statements_one hbegins (reads_statement_semicolon hbegins
      (readsFrom_statementExpression hbegins.pathStart h (.semicolon false []) d hd))

/-! ## Functions -/

/-- The type of the matcher itself as a result. -/
theorem reads_returnType_self (hend : EndsType rest) (hd : 1 ≤ d) :
    Reads (returnType (grammar d).type)
      (.sign '-' true :: .sign '>' false :: .word "Self" :: rest) rest
      (some (.path false [.plain "Self"])) :=
  reads_returnType (reads_grammar (.type true) 0 (fun _ _ =>
    reads_type_of_path (.same _) (reads_path_word (.inr (by simp)) hend.toEndsPath) hend) hd)

/-- The constructor. -/
theorem readsFunction_constructor (hruntime : runtime.IsReadable) (hname : IsName name)
    (hfield : IsName field) (hd : 8 ≤ d) :
    ReadsFunction (grammar d)
      (.word "fn" :: .word name :: .group .round [] :: .sign '-' true :: .sign '>' false ::
        .word "Self" :: .group .curly [.word "Self", .group .curly (.word field ::
          .sign ':' false :: (runtime.tokens ++ [Token.sign ':' true, .sign ':' false,
            .word "BeanPropertyMatcher", .sign ':' true, .sign ':' false, .word "new",
            .group .round [], .sign ',' false]))] :: rest) rest where
  startsFunction := ⟨_, rfl⟩
  readsSignature := by
    have hbegins : BeginsExpression [.word "Self", .group .curly (.word field :: .sign ':' false ::
          (runtime.tokens ++ [Token.sign ':' true, .sign ':' false, .word "BeanPropertyMatcher",
            .sign ':' true, .sign ':' false, .word "new", .group .round [], .sign ',' false]))] :=
      beginsExpression_word (.same _) (.inr (by simp)) (by simp) (by simp) (by simp) (by simp)
    refine ⟨_, reads_signature hname (reads_typeParameters_none (by simp))
      reads_functionParameters_nil (reads_returnType_self (.group _ _ _) (by omega))
      (reads_conditions_none (by simp)), hbegins.noHash, ?_⟩
    exact readsFrom_statements_last hbegins
      (readsFrom_operand_self hfield (readsFrom_expression
        (readsFrom_operand_function hruntime (by decide) (by decide) (.comma false []))
        (.comma false [])) .nil) d (by omega)

/-! ### Methods for properties -/

theorem readsParameter_name {type : List Token} {tree : TypeTree} (hname : IsName name)
    (htype : Reads (grammar d).type (type ++ rest) rest tree)
    (hdots : Look.sign "..." (type ++ rest) = false) (hd : 1 ≤ d) :
    ReadsParameter (grammar d) name type rest where
  isName := hname
  readsName := ⟨_, readsFrom_pattern_name hname (.inr rfl) d hd⟩
  readsType := ⟨tree, htype⟩
  noDots := hdots

/-- The bound on what a property can be matched by. -/
theorem reads_conditions_matcher {body : List Token} (hruntime : runtime.IsReadable) (hd : 3 ≤ d) :
    Reads (conditions (grammar d))
      (.word "where" :: .word "M" :: .sign ':' false :: (runtime.tokens ++ .sign ':' true ::
        .sign ':' false :: .word "Matcher" :: .sign '<' false :: .word "dyn" :: (runtime.tokens ++
        .sign ':' true :: .sign ':' false :: .word "PropertyValue" :: .sign '>' false ::
        .sign '+' false :: .sign '\'' true :: .word "static" :: .sign ',' false ::
        .group .curly body :: rest)))
      (.group .curly body :: rest) true := by
  have hobject : ReadsFrom 2 .argument
      (.word "dyn" :: (runtime.tokens ++
        .sign ':' true :: .sign ':' false :: .word "PropertyValue" :: .sign '>' false ::
        .sign '+' false :: .sign '\'' true :: .word "static" :: .sign ',' false ::
        .group .curly body :: rest))
      (.sign '>' false :: .sign '+' false :: .sign '\'' true :: .word "static" ::
        .sign ',' false :: .group .curly body :: rest) _ :=
    readsFrom_succ fun d hd => reads_argument (by simp) (by simp) (by simp)
      (reads_grammar (.type true) 0 (fun d _ =>
        reads_type_dyn hruntime.pathStart
          (reads_path_item hruntime (by decide) ⟨by simp, by simp⟩) (by simp) (by simp) (by simp))
        (by omega))
  exact reads_conditions (by decide)
    (readsFrom_type_name (by decide) (.sign (by decide) _) d (by omega))
    (chains_cons (c := '+') (by decide) (by decide) hruntime.pathStart.noConditionsEnd
      (reads_bound_of_path hruntime.pathStart
        (reads_path_item_angle hruntime (by decide)
          (reads_angleArguments (by simp) (hobject d (by omega))) (by simp; omega) (by simp))
        (by simp) (by simp)) (by simp; omega)
      (chains_last (by simp [Look.conditionsEnd]) reads_bound_static (by simp)))

/-- The statements of the method for a property: the matcher is registered, and the registry comes
back. -/
theorem readsFrom_statements_register {text registered parameter : String} (hfield : IsName field)
    (hregistered : IsName registered) (hparameter : IsName parameter) :
    ReadsFrom 9 .statements
      [.word "self", .sign '.' false, .word field, .sign '.' false, .word "with", .group .round
        [.literal .text text, .sign ',' false, .sign '|' false, .word "item", .sign '|' false,
          .sign '&' false, .word "item", .sign '.' false, .word registered, .sign ',' false,
          .word parameter],
        .sign ';' false, .word "self"] [] () :=
  readsFrom_succ fun d hd => by
    have hbegins : BeginsExpression [.word "self", .sign '.' false, .word field, .sign '.' false,
        .word "with", .group .round
          [.literal .text text, .sign ',' false, .sign '|' false, .word "item", .sign '|' false,
            .sign '&' false, .word "item", .sign '.' false, .word registered, .sign ',' false,
            .word parameter], .sign ';' false, .word "self"] :=
      beginsExpression_word (.here _) (.inr (by simp)) (by simp) (by simp) (by simp) (by simp)
    have hlast : BeginsExpression [.word "self"] :=
      beginsExpression_word (.here _) (.inr (by simp)) (by simp) (by simp) (by simp) (by simp)
    have harguments : ∀ d, 6 ≤ d → Reads (commas (grammar d).expression)
        [.literal .text text, .sign ',' false, .sign '|' false, .word "item", .sign '|' false,
          .sign '&' false, .word "item", .sign '.' false, .word registered, .sign ',' false,
          .word parameter] [] [.other, .other, .other] := fun d hd =>
      (lists_cons (by simp)
        (readsFrom_expression (readsFrom_operand_text (.comma false _)) (.comma false _) d
          (by omega))
        (by simp) (by simp)
        (lists_cons (by simp)
          (readsFrom_expression (readsFrom_operand_closure (by decide) (by decide) hregistered
            (.comma false _)) (.comma false _) d hd)
          (by simp) (by simp)
          (lists_last (by simp)
            (readsFrom_expression (readsFrom_operand_word (.name hparameter _) (.inl hparameter)
              .nil) .nil d (by omega)) (by simp)))).reads
    have hcall : ReadsFrom 7 (.operand true) _ [.sign ';' false, .word "self"] .other :=
      readsFrom_succ fun d hd =>
        reads_operand_path hbegins.pathStart
          (reads_atom_path hbegins.pathStart (by simp)
            (reads_pathExpression hbegins.pathStart
              (reads_path_word (.inr (by simp)) ⟨by simp, by simp⟩) (by simp) (by simp)))
          (reads_trailers_method hfield (by decide) (harguments d hd) (.semicolon false _))
    exact reads_statements_two hbegins
      (reads_statement_semicolon hbegins
        (readsFrom_statementExpression hbegins.pathStart hcall (.semicolon false _) d hd))
      hlast
      (reads_statement_last hlast (readsFrom_statementExpression hlast.pathStart
        (readsFrom_operand_word hlast.pathStart (.inr (by simp)) .nil) .nil d (by omega)))

/-- A method for a property is read. -/
theorem reads_propertyMethod {spec : MatcherSpec} {method : PropertyMethod}
    (hruntime : runtime.IsReadable) (hfield : IsName spec.registryField.name)
    (hname : IsName method.name) (hparameter : IsName method.parameter)
    (hregistered : IsName (fieldWord method.property)) (hd : 9 ≤ d) :
    Reads (implementationMember (grammar d))
      (propertyMethodTokens spec runtime.tokens method ++ rest) rest false := by
  have hmethod : ReadsFunction (grammar d)
      (.word "fn" :: .word method.name :: .sign '<' false :: .word "M" :: .sign '>' false ::
        .group .round ([Token.word "mut", .word "self"] ++ Token.sign ',' false ::
          .word method.parameter :: .sign ':' false :: [.word "M"]) ::
        .sign '-' true :: .sign '>' false :: .word "Self" :: .word "where" :: .word "M" ::
        .sign ':' false :: (runtime.tokens ++ .sign ':' true :: .sign ':' false ::
        .word "Matcher" :: .sign '<' false :: .word "dyn" :: (runtime.tokens ++ .sign ':' true ::
        .sign ':' false :: .word "PropertyValue" :: .sign '>' false :: .sign '+' false ::
        .sign '\'' true :: .word "static" :: .sign ',' false ::
        .group .curly [Token.word "self", .sign '.' false, .word spec.registryField.name,
          .sign '.' false, .word "with", .group .round
            [textLiteral method.property, .sign ',' false, .sign '|' false, .word "item",
              .sign '|' false, .sign '&' false, .word "item", .sign '.' false,
              .word (fieldWord method.property), .sign ',' false, .word method.parameter],
          .sign ';' false, .word "self"] :: rest))) rest :=
    { startsFunction := ⟨_, rfl⟩
      readsSignature :=
        ⟨_, reads_signature hname
          (reads_typeParameters (by simp)
            (reads_grammar (.parameter true) 0 (fun _ _ => reads_parameter (by decide))
              (by omega)))
          (reads_functionParameters_one .mutable (readsParameter_name hparameter
            (readsFrom_type_name (by decide) .nil d (by omega)) (by simp) (by omega)))
          (reads_returnType_self (.words _ _) (by omega))
          (reads_conditions_matcher hruntime (by omega)),
          by simp, readsFrom_statements_register hfield hregistered hparameter d hd⟩ }
  simpa [propertyMethodTokens, words, word, round, curly, runtimeItem, lifetimeTokens] using
    reads_member_publicFunction hmethod

/-! ### Methods of the matching protocol -/

/-- The parameter for a value of the type. -/
theorem readsParameter_item {target : String} (h : IsName target) (hend : EndsType rest)
    (hd : 2 ≤ d) : ReadsParameter (grammar d) "item" [.sign '&' false, .word target] rest :=
  readsParameter_name (by decide)
    (reads_grammar (.type true) 1 (fun d hd =>
      reads_type_reference (.name h rest) (readsFrom_type_name h hend d hd)) hd)
    (by simp) (by omega)

/-- The parameter for the description that is written to. -/
theorem readsParameter_description (hruntime : runtime.IsReadable) (hend : EndsType rest)
    (hd : 2 ≤ d) :
    ReadsParameter (grammar d) "description"
      (.sign '&' false :: .word "mut" :: (runtime.tokens ++
        [Token.sign ':' true, .sign ':' false, .word "Description"])) rest :=
  readsParameter_name (by decide)
    (by
      rw [List.cons_append, List.cons_append, List.append_assoc]
      exact reads_grammar (.type true) 1 (fun d hd =>
        reads_type_mutable (readsFrom_type_item hruntime (by decide) hend d hd)) hd)
    (by simp) (by omega)

/-- Names as the last arguments of a call. -/
theorem lists_names {argument : String} {more : List String}
    (h : ∀ name ∈ argument :: more, IsName name) (hd : 3 ≤ d) :
    Lists Look.nothing (grammar d).expression
      (.word argument :: more.flatMap fun name => [.sign ',' false, .word name]) []
      (List.replicate (more.length + 1) .other) := by
  have hargument := h argument List.mem_cons_self
  induction more generalizing argument with
  | nil =>
      exact lists_last (by simp) (readsFrom_expression (readsFrom_operand_word
        (.name hargument _) (.inl hargument) .nil) .nil d (by omega)) (by simp)
  | cons next more ih =>
      have hlater := ih (fun name hname => h name (List.mem_cons_of_mem _ hname)) (h next (by simp))
      rw [List.flatMap_cons]
      exact lists_cons (by simp) (readsFrom_expression (readsFrom_operand_word
        (.name hargument _) (.inl hargument) (.comma _ _)) (.comma _ _) d (by omega)) (by simp)
        (by simp) hlater

/-- A call that passes the registry and the given names on. -/
theorem readsFrom_operand_delegate {target : String} (delegate argument : String)
    (more : List String) (hruntime : runtime.IsReadable) (htarget : IsName target)
    (hdelegate : IsName delegate) (hfield : IsName field)
    (h : ∀ name ∈ argument :: more, IsName name) (hend : EndsExpression rest) :
    ReadsFrom 4 (.operand true)
      (runtime.tokens ++ .sign ':' true :: .sign ':' false :: .word "Matcher" :: .sign ':' true ::
        .sign ':' false :: .sign '<' false :: .word target :: .sign '>' false :: .sign ':' true ::
        .sign ':' false :: .word delegate :: .group .round
          (.sign '&' false :: .word "self" :: .sign '.' false :: .word field ::
            (argument :: more).flatMap fun name => [.sign ',' false, .word name]) :: rest)
      rest .other :=
  readsFrom_operand_call hruntime (by decide) htarget hdelegate (fun d hd =>
    (lists_cons (by simp)
      (readsFrom_expression (readsFrom_operand_fieldReference (.here _) (.inr (by simp)) (by decide)
        (by decide) hfield (.comma _ _)) (.comma _ _) d hd) (by simp)
      (by simp only [List.length_cons]; omega) (lists_names h hd)).reads) hend

variable (rest) in
/-- A method of the matching protocol with parameters, a result and a body that are read. -/
theorem readsFunction_protocol (method : String) (result : List Token)
    {parameters body : List Token} {result? : Option TypeTree} (hmethod : IsName method)
    (hparameters : Reads (Source.functionParameters (grammar d)) parameters [] ())
    (hresult : Reads (returnType (grammar d).type) (result ++ .group .curly body :: rest)
      (.group .curly body :: rest) result?)
    (hgroup : Look.sign "#" body = false) (hbody : Reads (grammar d .statements) body [] ()) :
    ReadsFunction (grammar d)
      (.word "fn" :: .word method :: .group .round parameters ::
        (result ++ .group .curly body :: rest)) rest where
  startsFunction := ⟨_, rfl⟩
  readsSignature := ⟨body, reads_signature hmethod (reads_typeParameters_none (by simp)) hparameters
    hresult (reads_conditions_none (by simp)), hgroup, hbody⟩

/-- A method of the matching protocol is read. -/
theorem reads_protocolMethod {spec : MatcherSpec} {method : ProtocolMethod}
    (hruntime : runtime.IsReadable) (htarget : IsName spec.target.name)
    (hfield : IsName method.field) (hd : 6 ≤ d) :
    Reads (implementationMember (grammar d))
      (protocolMethodTokens spec runtime.tokens method ++ rest) rest false := by
  have hbegins : ∀ joined ts, BeginsExpression (runtime.tokens ++ Token.sign ':' true ::
      .sign ':' false :: .word "Matcher" :: .sign ':' true :: .sign ':' false ::
      .sign '<' joined :: ts) := fun _ _ => beginsExpression_item hruntime (by decide)
  cases hoperation : method.operation with
  | describeTo =>
      have hfunction := readsFunction_protocol (d := d) rest "describe_to" [] (by decide)
        (reads_functionParameters_one .reference
          (readsParameter_description hruntime .nil (by omega)))
        (reads_returnType_none (by simp)) (hbegins _ _).noHash
        (readsFrom_statements_semicolon (hbegins _ _)
          (readsFrom_operand_delegate "describe_to" "description" [] hruntime htarget (by decide)
            hfield (by simp; decide) (.semicolon _ _)) d hd)
      simpa [protocolMethodTokens, words, word, round, curly, runtimeItem, hoperation,
        ProtocolOperation.methodName, ProtocolOperation.delegate]
        using reads_member_function hfunction
  | matchesSafely =>
      have hfunction := readsFunction_protocol (d := d) rest "matches_safely"
        [.sign '-' true, .sign '>' false, .word "bool"] (by decide)
        (reads_functionParameters_one .reference (readsParameter_item htarget .nil (by omega)))
        (reads_returnType (readsFrom_type_name (by decide) (.group _ _ _) d (by omega)))
        (hbegins _ _).noHash
        (readsFrom_statements_last (hbegins _ _)
          (readsFrom_operand_delegate "matches" "item" [] hruntime htarget (by decide) hfield
            (by simp; decide) .nil) d hd)
      simpa [protocolMethodTokens, words, word, round, curly, runtimeItem, hoperation,
        ProtocolOperation.methodName, ProtocolOperation.delegate]
        using reads_member_function hfunction
  | describeMismatchSafely =>
      have hfunction := readsFunction_protocol (d := d) rest "describe_mismatch_safely" []
        (by decide)
        (reads_functionParameters_two .reference
          (readsParameter_item htarget (.sign (by decide) _) (by omega))
          (readsParameter_description hruntime .nil (by omega)))
        (reads_returnType_none (by simp)) (hbegins _ _).noHash
        (readsFrom_statements_semicolon (hbegins _ _)
          (readsFrom_operand_delegate "describe_mismatch" "item" ["description"] hruntime htarget
            (by decide) hfield (by simp; decide) (.semicolon _ _)) d hd)
      simpa [protocolMethodTokens, words, word, round, curly, runtimeItem, hoperation,
        ProtocolOperation.methodName, ProtocolOperation.delegate]
        using reads_member_function hfunction

/-! ## The parts of a file -/

theorem readsFrom_type_text (hend : EndsType rest) :
    ReadsFrom 2 (.type sums)
      (.sign '&' false :: .sign '\'' true :: .word "static" :: .word "str" :: rest) rest
      (.reference (some "static") false (.path false [.plain "str"])) :=
  readsFrom_succ fun d hd =>
    reads_type_static (by decide) (readsFrom_type_name (by decide) hend d hd)

/-- A text constant is read. -/
theorem reads_constant {value : String} (h : IsName name) (hd : 3 ≤ d) :
    Reads (implementationMember (grammar d)) (constantTokens name value ++ rest) rest false := by
  have htype : Reads (grammar d).type
      ([Token.sign '&' false, .sign '\'' true, .word "static", .word "str"] ++ .sign '=' false ::
        .literal .text (Text.literal value) :: .sign ';' false :: rest) _ _ :=
    readsFrom_type_text (.sign (by decide) _) d (by omega)
  have hconstant := reads_member_constant h htype
    (readsFrom_expression (readsFrom_operand_text (.semicolon _ _)) (.semicolon _ _) d (by omega))
  simpa [constantTokens, word, lifetimeTokens, textLiteral] using hconstant

/-- The constructor is read. -/
theorem reads_constructor {spec : MatcherSpec} (hruntime : runtime.IsReadable)
    (hname : IsName spec.constructorName) (hfield : IsName spec.registryField.name) (hd : 8 ≤ d) :
    Reads (implementationMember (grammar d)) (constructorTokens spec runtime.tokens ++ rest) rest
      false := by
  have hconstructor : ReadsFunction (grammar d) _ rest :=
    readsFunction_constructor hruntime hname hfield hd
  simpa [constructorTokens, words, word, round, curly, runtimeItem]
    using reads_member_publicFunction hconstructor

/-- A row of parts, each of which the rule passes over. -/
theorem passesRow_flatten {α : Type} (rule : Parse α) (parts : List (List Token))
    (h : ∀ tokens ∈ parts, tokens ≠ [] ∧ ∀ rest, Passes rule (tokens ++ rest) rest) :
    PassesRow (fun ts => !Look.nothing ts) rule parts.flatten [] := by
  induction parts with
  | nil => exact passesRow_nil rule (by simp)
  | cons tokens parts ih =>
      obtain ⟨hne, htokens⟩ := h tokens List.mem_cons_self
      have hlength : 0 < tokens.length := List.length_pos_iff.2 hne
      exact passesRow_cons (by simp [hne]) (htokens parts.flatten) (by simp; omega)
        (ih fun other hother => h other (List.mem_cons_of_mem _ hother))

variable (rest) in
/-- The members of an implementation, each of which begins with a word. -/
theorem reads_members_flatten (parts : List (List Token))
    (hstart : ∀ tokens ∈ parts, ∃ word later, tokens = .word word :: later)
    (h : ∀ tokens ∈ parts, ∀ rest,
      Reads (implementationMember (grammar d)) (tokens ++ rest) rest false) :
    Reads (members (grammar d) (implementationMember (grammar d)))
      (.group .curly parts.flatten :: rest) rest () := by
  refine reads_members ?_ (passesRow_flatten _ parts fun tokens htokens => ?_)
  · cases parts with
    | nil => simp
    | cons tokens parts =>
        obtain ⟨word, later, rfl⟩ := hstart tokens List.mem_cons_self
        simp
  · obtain ⟨word, later, rfl⟩ := hstart tokens htokens
    exact ⟨by simp, fun rest => (reads_verbatimIf (h _ htokens rest) rfl).passes⟩

/-- Whether the names of a specification can be names in code. -/
structure HasNames (spec : MatcherSpec) : Prop where
  target : IsName spec.target.name
  className : IsName spec.className
  field : IsName spec.registryField.name
  fieldTarget : IsName spec.registryField.target
  constructorName : IsName spec.constructorName
  factory : IsName spec.factory.name
  returns : IsName spec.factory.returns
  propertyMethods : ∀ method ∈ spec.propertyMethods,
    IsName method.name ∧ IsName method.parameter ∧ IsName (fieldWord method.property)
  protocolMethods : ∀ method ∈ spec.protocolMethods, IsName method.field

section Files

variable (rest) {spec : MatcherSpec} (hruntime : runtime.IsReadable) (hnames : HasNames spec)
include hruntime hnames

theorem passes_struct (hd : 6 ≤ d) :
    Passes (item (grammar d)) (structTokens spec runtime.tokens ++ rest) rest := by
  have htype : Reads (grammar d).type (runtime.tokens ++ .sign ':' true :: .sign ':' false ::
      .word "BeanPropertyMatcher" :: .sign '<' false :: .word spec.registryField.target ::
        .sign '>' false :: [Token.sign ',' false]) [Token.sign ',' false] _ :=
    readsFrom_type_item_of hruntime (by decide) hnames.fieldTarget (.sign (by decide) _) d
      (by omega)
  have hstruct : Passes (item (grammar d)) (.sign '#' false :: .group .square
      [.word "doc", .sign '=' false, .literal .text (Text.literal (structComment spec))] :: _)
      rest :=
    passes_item_struct hnames.className (passes_fields hnames.field htype)
  simpa [structTokens, commentTokens, words, word, square, curly, runtimeItem, textLiteral]
    using hstruct

omit hruntime in
theorem readsFrom_type_className (hd : 1 ≤ d) {inner : List Token} :
    Reads (grammar d).type (.word spec.className :: .group .curly inner :: rest)
      (.group .curly inner :: rest) (.path false [.plain spec.className]) :=
  readsFrom_type_name hnames.className (.group _ _ _) d hd

/-- The constructor and the methods for the properties are read. -/
theorem reads_ownMethods (hd : 10 ≤ d) :
    Reads (grammar d .item)
      (.word "impl" :: .word spec.className :: .group .curly
        (constructorTokens spec runtime.tokens ++
          spec.propertyMethods.flatMap (propertyMethodTokens spec runtime.tokens)) :: rest)
      rest .other := by
  refine reads_grammar .item 9 (fun d hd => ?_) hd
  refine reads_item_implementation (reads_implementation hnames.className
    (readsFrom_type_className rest hnames (by omega)) ?_)
  have hmembers := reads_members_flatten (d := d) rest (constructorTokens spec runtime.tokens ::
    spec.propertyMethods.map (propertyMethodTokens spec runtime.tokens)) ?_ ?_
  · simpa [List.flatMap] using hmembers
  · simp only [List.mem_cons, List.mem_map]
    rintro tokens (rfl | ⟨method, -, rfl⟩)
    · exact ⟨_, _, rfl⟩
    · exact ⟨_, _, rfl⟩
  · simp only [List.mem_cons, List.mem_map]
    rintro tokens (rfl | ⟨method, hmethod, rfl⟩) rest
    · exact reads_constructor hruntime hnames.constructorName hnames.field (by omega)
    · obtain ⟨hname, hparameter, hregistered⟩ := hnames.propertyMethods method hmethod
      exact reads_propertyMethod hruntime hnames.field hname hparameter hregistered hd

/-- The methods of the matching protocol are read. -/
theorem reads_protocol (hd : 10 ≤ d) :
    Reads (grammar d .item)
      (.word "impl" :: (runtime.tokens ++ .sign ':' true :: .sign ':' false ::
        .word "TypeSafeMatcher" :: .sign '<' false :: .word spec.target.name :: .sign '>' false ::
        .word "for" :: .word spec.className :: .group .curly
          (spec.protocolMethods.flatMap (protocolMethodTokens spec runtime.tokens)) :: rest))
      rest .other := by
  refine reads_grammar .item 9 (fun d hd => ?_) hd
  have htrait : ∀ ts, Reads (grammar d).type (runtime.tokens ++ .sign ':' true ::
      .sign ':' false :: .word "TypeSafeMatcher" :: .sign '<' false :: .word spec.target.name ::
      .sign '>' false :: .word "for" :: ts) (.word "for" :: ts) _ := fun ts =>
    readsFrom_type_item_of hruntime (by decide) hnames.target (.words "for" ts) d (by omega)
  refine reads_item_implementation (reads_implementation_of_trait hruntime.pathStart (htrait _)
    (readsFrom_type_className rest hnames (by omega)) ?_)
  have hmembers := reads_members_flatten (d := d) rest
    (spec.protocolMethods.map (protocolMethodTokens spec runtime.tokens)) ?_ ?_
  · simpa [List.flatMap] using hmembers
  · simp only [List.mem_map]
    rintro tokens ⟨method, -, rfl⟩
    cases hoperation : method.operation <;>
      simp [protocolMethodTokens, hoperation, word]
  · simp only [List.mem_map]
    rintro tokens ⟨method, hmethod, rfl⟩ rest
    exact reads_protocolMethod hruntime hnames.target (hnames.protocolMethods method hmethod)
      (by omega)

/-- The record of the provenance is read. -/
theorem reads_provenance (hd : 10 ≤ d) :
    Reads (grammar d .item)
      (.word "impl" :: (runtime.tokens ++ .sign ':' true :: .sign ':' false ::
        .word "GeneratedMatcher" :: .word "for" :: .word spec.className :: .group .curly
          (constantTokens "GENERATED_BY" spec.provenance.generatedBy ++
            constantTokens "BASED_ON" spec.provenance.basedOn) :: rest))
      rest .other := by
  refine reads_grammar .item 9 (fun d hd => ?_) hd
  have htrait : ∀ ts, Reads (grammar d).type (runtime.tokens ++ .sign ':' true ::
      .sign ':' false :: .word "GeneratedMatcher" :: .word "for" :: ts) (.word "for" :: ts) _ :=
    fun ts => readsFrom_type_item hruntime (by decide) (.words "for" ts) d (by omega)
  refine reads_item_implementation (reads_implementation_of_trait hruntime.pathStart (htrait _)
    (readsFrom_type_className rest hnames (by omega)) ?_)
  have hmembers := reads_members_flatten (d := d) rest
    [constantTokens "GENERATED_BY" spec.provenance.generatedBy,
      constantTokens "BASED_ON" spec.provenance.basedOn] ?_ ?_
  · simpa using hmembers
  · simp only [List.mem_cons, List.not_mem_nil, or_false]
    rintro tokens (rfl | rfl)
    · exact ⟨_, _, rfl⟩
    · exact ⟨_, _, rfl⟩
  · simp only [List.mem_cons, List.not_mem_nil, or_false]
    rintro tokens (rfl | rfl) rest
    · exact reads_constant (by decide) (by omega)
    · exact reads_constant (by decide) (by omega)

omit hruntime in
/-- The function that makes a matcher is read. -/
theorem reads_factory (hd : 10 ≤ d) :
    Reads (grammar d .item)
      (.sign '#' false :: .group .square [.word "doc", .sign '=' false,
          textLiteral (factoryComment spec)] ::
        .word "pub" :: .word "fn" :: .word spec.factory.name :: .group .round [] ::
        .sign '-' true :: .sign '>' false :: .word spec.factory.returns ::
        .group .curly [.word spec.factory.returns, .sign ':' true, .sign ':' false,
          .word spec.constructorName, .group .round []] :: rest) rest .other := by
  refine reads_grammar .item 9 (fun d hd => ?_) hd
  have hbegins : BeginsExpression [.word spec.factory.returns, .sign ':' true, .sign ':' false,
      .word spec.constructorName, .group .round []] :=
    beginsExpression_call hnames.returns hnames.constructorName
  exact reads_item_function
    { startsFunction := ⟨_, rfl⟩
      readsSignature := ⟨_, reads_signature hnames.factory (reads_typeParameters_none (by simp))
        reads_functionParameters_nil
        (reads_returnType (readsFrom_type_name hnames.returns (.group _ _ _) d (by omega)))
        (reads_conditions_none (by simp)), hbegins.noHash,
        readsFrom_statements_last hbegins
          (readsFrom_operand_function_of_name hnames.returns hnames.constructorName .nil) d
          (by omega)⟩ }

omit hruntime in
/-- The import of the type is read. -/
theorem reads_import (hd : 10 ≤ d) :
    Reads (grammar d .item)
      (.word "use" :: .word "super" :: .sign ':' true :: .sign ':' false ::
        .word spec.target.name :: .sign ';' false :: rest) rest .other := by
  have hname : ReadsFrom 1 (.importTree false) (.word spec.target.name :: .sign ';' false :: rest)
      (.sign ';' false :: rest) false :=
    readsFrom_succ fun _ _ => reads_importTree_name hnames.target
  have hparent : ReadsFrom 2 (.importTree !false)
      (.word "super" :: .sign ':' true :: .sign ':' false :: .word spec.target.name ::
        .sign ';' false :: rest) (.sign ';' false :: rest) false :=
    readsFrom_succ fun d hd => reads_importTree_super (hname d hd)
  exact reads_grammar .item 2 (fun d hd => reads_item_import (hparent d hd)) (by omega)

/-- The items of a file are read. -/
theorem passes_fileItems (hd : 10 ≤ d) :
    Passes (fileItems (grammar d)) (fileTokens spec runtime.tokens) [] := by
  have hlints : ∀ ts, Look.sign "#" ts = false →
      Reads (innerAttributes (grammar d)) (lintTokens spec.naming ++ ts) ts [.other] :=
    fun ts hts => reads_innerAttributes_allow hts
  have hstruct : ∀ rest,
      Passes (grammar d .item) (structTokens spec runtime.tokens ++ rest) rest := by
    obtain ⟨d, rfl⟩ : ∃ n, d = n + 1 := ⟨d - 1, by omega⟩
    exact fun rest => passes_struct rest hruntime hnames (by omega)
  have himport := fun rest => (reads_import rest hnames hd).passes
  have hown := fun rest => (reads_ownMethods rest hruntime hnames hd).passes
  have hprotocol := fun rest => (reads_protocol rest hruntime hnames hd).passes
  have hprovenance := fun rest => (reads_provenance rest hruntime hnames hd).passes
  have hfactory := fun rest => (reads_factory rest hnames hd).passes
  unfold fileTokens
  rw [List.flatten_cons]
  have hitems := passesRow_flatten (grammar d .item) [
      List.flatten [words ["use", "super"], signs "::", word spec.target.name, signs ";"],
      structTokens spec runtime.tokens,
      List.flatten [word "impl", word spec.className,
        curly (constructorTokens spec runtime.tokens ++
          spec.propertyMethods.flatMap (propertyMethodTokens spec runtime.tokens))],
      List.flatten [word "impl", runtimeItem runtime.tokens "TypeSafeMatcher", signs "<",
        word spec.target.name, signs ">", word "for", word spec.className,
        curly (spec.protocolMethods.flatMap (protocolMethodTokens spec runtime.tokens))],
      List.flatten [word "impl", runtimeItem runtime.tokens "GeneratedMatcher", word "for",
        word spec.className, curly (constantTokens "GENERATED_BY" spec.provenance.generatedBy ++
          constantTokens "BASED_ON" spec.provenance.basedOn)],
      List.flatten [commentTokens (factoryComment spec), words ["pub", "fn"],
        word spec.factory.name, round [], signs "->", word spec.factory.returns,
        curly (List.flatten
          [word spec.factory.returns, signs "::", word spec.constructorName, round []])]] ?_
  · intro spelled hasVerbatim
    rw [fileItems, run_bind, (hlints _ (by simp [words])).run]
    exact hitems.passes _ _
  · simp only [List.mem_cons, List.not_mem_nil, or_false]
    rintro tokens (rfl | rfl | rfl | rfl | rfl | rfl)
    · exact ⟨by simp [words], fun rest => by simpa [words, word] using himport rest⟩
    · exact ⟨by simp [structTokens, commentTokens], hstruct⟩
    · exact ⟨by simp [word], fun rest => by simpa [word, curly] using hown rest⟩
    · exact ⟨by simp [word], fun rest => by simpa [word, curly, runtimeItem] using hprotocol rest⟩
    · exact ⟨by simp [word], fun rest => by simpa [word, curly, runtimeItem] using hprovenance rest⟩
    · exact ⟨by simp [commentTokens], fun rest => by
        simpa [commentTokens, words, word, square, round, curly] using hfactory rest⟩

/-- The code of a specification is well formed, and nothing in it is verbatim. -/
theorem holdsVerbatim?_fileTokens :
    holdsVerbatim? (fileTokens spec runtime.tokens) = some false := by
  have hitems := passes_fileItems hruntime hnames
    (d := 8 * tokenCount (fileTokens spec runtime.tokens) + 16) (by omega)
  simp [holdsVerbatim?, parseAll?, hitems.run]

end Files

end StructMatch.Code
