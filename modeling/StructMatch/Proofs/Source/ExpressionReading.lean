import StructMatch.Proofs.Source.TypeReading

/-!
# Following the rules for expressions and statements

The expressions that the code of a matcher is made of are names, calls, references to a field, and a
closure that reads one.  Each of them ends before a comma or a semicolon, or with the group that it
fills, where no operator goes on.
-/

namespace StructMatch.Source

open Parse

variable {ts mid rest : List Token} {word name : String} {joined literals : Bool} {g : Grammar}
  {kind : ExpressionKind}

/-! ## The ends of expressions -/

/-- Whether an expression ends before the given tokens. -/
inductive EndsExpression : List Token → Prop
  | nil : EndsExpression []
  | comma (joined : Bool) (ts : List Token) : EndsExpression (.sign ',' joined :: ts)
  | semicolon (joined : Bool) (ts : List Token) : EndsExpression (.sign ';' joined :: ts)

theorem EndsExpression.endsPath (h : EndsExpression rest) : EndsPath rest := by
  cases h <;> exact ⟨by simp, by simp⟩

theorem EndsExpression.operatorAhead? {spelled : List Token} {hasVerbatim : Bool}
    (h : EndsExpression rest) :
    Source.operatorAhead? ⟨rest, spelled, hasVerbatim⟩ =
      some (none, ⟨rest, spelled, hasVerbatim⟩) := by
  cases h <;> rfl

theorem reads_operators {base : Precedence} {left : ExpressionKind} (h : EndsExpression rest) :
    Reads (operators g literals base left) rest rest left := by
  intro spelled hasVerbatim
  have hahead := @h.operatorAhead?
  by_cases hrange : left = .range
  · simp [operators, operatorStep, hrange]
  · cases h <;> simp [operators, operatorStep, hrange, hahead]

theorem reads_expression (hoperand : Reads (g (.operand literals)) ts rest kind)
    (hoperators : Reads (g (.operators literals .loosest kind)) rest rest kind) :
    Reads (expression g literals) ts rest kind := by
  intro spelled hasVerbatim
  simp [expression, hoperand.run, hoperators.run]

/-! ## Operands -/

theorem reads_trailers_end (h : EndsExpression rest) : Reads (trailers g kind) rest rest kind := by
  intro spelled hasVerbatim
  cases h <;> simp [trailers]

/-- A field after an operand. -/
theorem reads_trailers_field (h : IsName name) (hrest : EndsExpression rest) :
    Reads (trailers g .other) (.sign '.' false :: .word name :: rest) rest .other := by
  intro spelled hasVerbatim
  have hne : ∀ other, Text.isReserved other = true → name ≠ other := fun _ => h.ne
  cases hrest <;>
    simp (disch := decide) [trailers, trailers.field, trailers.single, member, h.isReserved,
      h.run_name, hne]

/-- A method of a field after an operand. -/
theorem reads_trailers_method {field method : String} {arguments : List Token}
    {kinds : List ExpressionKind} (hfield : IsName field) (hmethod : IsName method)
    (harguments : Reads (commas g.expression) arguments [] kinds) (hrest : EndsExpression rest) :
    Reads (trailers g .other)
      (.sign '.' false :: .word field :: .sign '.' false :: .word method ::
        .group .round arguments :: rest) rest .other := by
  intro spelled hasVerbatim
  have hne : ∀ other, Text.isReserved other = true → field ≠ other := fun _ => hfield.ne
  have hne' : ∀ other, Text.isReserved other = true → method ≠ other := fun _ => hmethod.ne
  cases hrest <;>
    simp (disch := decide) [trailers, trailers.field, trailers.single, member, hfield.isReserved,
      hfield.run_name, hne, hmethod.isReserved, hmethod.run_name, hne',
      harguments.run]

/-- A call after a path. -/
theorem reads_trailers_call {arguments : List Token} {kinds : List ExpressionKind}
    (harguments : Reads (commas g.expression) arguments [] kinds) (hrest : EndsExpression rest) :
    Reads (trailers g .other) (.group .round arguments :: rest) rest .other := by
  intro spelled hasVerbatim
  cases hrest <;> simp [trailers, harguments.run]

theorem reads_pathExpression {path : SourcePath} (hstart : PathStart ts)
    (hpath : Reads (Source.path g true) ts rest path) (hbang : Look.sign "!" rest = false)
    (hcurly : Look.group .curly rest = false) :
    Reads (pathExpression g literals) ts rest .other := by
  intro spelled hasVerbatim
  have hqualified := reads_qualifiedPath hstart hpath
  simp [pathExpression, macroAfter, hqualified.run, hbang, hcurly]

theorem reads_atom_path (hstart : PathStart ts) (hhash : Look.second (Look.sign "#") ts = false)
    (hpath : Reads (pathExpression g literals) ts rest kind) :
    Reads (atom g literals) ts rest kind := by
  intro spelled hasVerbatim
  cases hstart with
  | name h =>
      have hne : ∀ other, Text.isReserved other = true → _ ≠ other := fun _ => h.ne
      simp only [look_second_cons, look_skip_word] at hhash
      simp (disch := decide) [atom, Look.closureBinder, Look.pathAhead, hne, hhash, h.isReserved,
        hpath.run]
  | _ => simp +decide (disch := decide) [atom, Look.closureBinder, Look.pathAhead, hpath.run]

theorem reads_operand_path (hstart : PathStart ts) (hatom : Reads (atom g literals) ts mid .other)
    (htrailers : Reads (trailers g .other) mid rest .other) :
    Reads (operand g literals) ts rest .other := by
  intro spelled hasVerbatim
  have hsigns : Look.sign "#" ts = false ∧ Look.sign "&" ts = false ∧ Look.sign "*" ts = false ∧
      Look.sign "!" ts = false ∧ Look.sign "-" ts = false := by
    cases hstart <;> simp
  simp [operand, outerAttributes, signBefore, hsigns, hatom.run, htrailers.run]

/-- A text. -/
theorem reads_operand_text {text : String} (hrest : EndsExpression rest) :
    Reads (operand g literals) (.literal .text text :: rest) rest .other := by
  intro spelled hasVerbatim
  have htrailers : Reads (trailers g .other) rest rest .other := reads_trailers_end hrest
  simp [operand, outerAttributes, signBefore, atom, htrailers.run]

/-- A reference. -/
theorem reads_operand_reference (hraw : word ≠ "raw") (hmut : word ≠ "mut")
    (hoperand : Reads (g (.operand literals)) (.word word :: ts) rest kind) :
    Reads (operand g literals) (.sign '&' false :: .word word :: ts) rest .other := by
  intro spelled hasVerbatim
  simp [operand, outerAttributes, signBefore, hraw, hmut, hoperand.run]

/-- A name as a pattern. -/
theorem reads_pattern_name {c : Char} (h : IsName word) (hc : c = '|' ∨ c = ':') :
    Reads (pattern g) (.word word :: .sign c false :: ts) (.sign c false :: ts) .other := by
  intro spelled hasVerbatim
  have hne : ∀ other, Text.isReserved other = true → word ≠ other := fun _ => h.ne
  have hbox : word ≠ "box" := h.ne (by decide)
  rcases hc with rfl | rfl <;>
    simp +decide (disch := decide) [pattern, Look.pathPattern, hne, h.isReserved, h.run_name]

/-- A function of one argument. -/
theorem reads_operand_closure {tree : ExpressionKind}
    (hpattern : Reads (g .pattern) (.word word :: .sign '|' false :: ts) (.sign '|' false :: ts)
      .other)
    (harrow : Look.sign "->" ts = false) (hbody : Reads (g (.expression literals)) ts rest tree)
    (hrest : EndsExpression rest) :
    Reads (operand g literals) (.sign '|' false :: .word word :: .sign '|' false :: ts) rest
      .other := by
  have hparameter : Reads (closureParameter g) (.word word :: .sign '|' false :: ts)
      (.sign '|' false :: ts) () := by
    intro spelled hasVerbatim
    simp [closureParameter, outerAttributes, hpattern.run]
  have hparameters : Lists (Look.sign "|") (closureParameter g)
      (.word word :: .sign '|' false :: ts) (.sign '|' false :: ts) [()] :=
    lists_last (by simp) hparameter (by simp)
  have hclosure : Reads (closure g literals)
      (.sign '|' false :: .word word :: .sign '|' false :: ts) rest () := by
    intro spelled hasVerbatim
    simp [closure, optionalBinder, hparameters.reads.run, harrow, hbody.run]
  have htrailers : Reads (trailers g .other) rest rest .other := reads_trailers_end hrest
  intro spelled hasVerbatim
  simp [operand, outerAttributes, signBefore, atom, hclosure.run, htrailers.run]

/-- A struct of which one field is given, with a comma after it. -/
theorem reads_pathExpression_struct {tree : ExpressionKind} {path : SourcePath}
    {fields : List Token} (hstart : PathStart ts)
    (hpath : Reads (Source.path g true) ts
      (.group .curly (.word name :: .sign ':' false :: fields) :: rest) path)
    (h : IsName name) (hvalue : Reads g.expression fields [.sign ',' joined] tree) :
    Reads (pathExpression g true) ts rest .other := by
  have hqualified := reads_qualifiedPath hstart hpath
  have hfields : Reads (fieldValues g) (.word name :: .sign ':' false :: fields) [] () := by
    have hlist : ∀ {rule : Parse Unit},
        Reads rule (.word name :: .sign ':' false :: fields) [.sign ',' joined] () →
          Reads (commas rule) (.word name :: .sign ':' false :: fields) [] [()] :=
      reads_commas_one (List.cons_ne_nil _ _)
    intro spelled hasVerbatim
    unfold fieldValues
    rw [run_bind, Reads.run (hlist ?_)]
    · exact ⟨_, rfl⟩
    · intro spelled hasVerbatim
      simp [outerAttributes, member, h.isReserved, h.run_name, hvalue.run]
  intro spelled hasVerbatim
  simp [pathExpression, macroAfter, hqualified.run, hfields.run]

/-! ## Statements -/

theorem reads_blockExpression? (hstart : PathStart ts) : Reads (blockExpression? g) ts ts none := by
  intro spelled hasVerbatim
  cases hstart with
  | name h =>
      have hne : ∀ other, Text.isReserved other = true → _ ≠ other := fun _ => h.ne
      simp (disch := decide) [blockExpression?, hne]
  | _ => simp (disch := decide) [blockExpression?]

theorem reads_statementExpression (hstart : PathStart ts)
    (hoperand : Reads (g (.operand true)) ts rest .other)
    (hoperators : Reads (g (.operators true .loosest .other)) rest rest .other) :
    Reads (statementExpression g) ts rest ⟨.other, false⟩ := by
  have hblock := reads_blockExpression? (g := g) hstart
  have hfirst : Reads (firstOperand g) ts rest (.other, true) := by
    intro spelled hasVerbatim
    have hlifetime : Look.lifetime ts = false := by cases hstart <;> simp
    simp [firstOperand, hlifetime, hblock.run, hoperand.run]
  have hhash : Look.sign "#" ts = false := by cases hstart <;> simp
  intro spelled hasVerbatim
  simp [statementExpression, outerAttributes, hhash, hfirst.run, hoperators.run]

/-- Whether what begins with a path is an expression, and neither a macro nor an item. -/
structure BeginsExpression (ts : List Token) : Prop where
  pathStart : PathStart ts
  noItem : Look.itemStart ts = false
  noMacro : ∀ {spelled hasVerbatim path c}, plainPath ⟨ts, spelled, hasVerbatim⟩ = some (path, c) →
    Look.sign "!" c.rest = false

theorem BeginsExpression.reads_macroStatement? (h : BeginsExpression ts) :
    Reads macroStatement? ts ts none := by
  intro spelled hasVerbatim
  cases hpath : plainPath ⟨ts, spelled, hasVerbatim⟩ with
  | none => simp [macroStatement?, hpath]
  | some outcome => simp [macroStatement?, hpath, h.noMacro hpath]

/-- Of the words that items begin with, a name is at most one that is not reserved. -/
theorem itemStart_name (h : IsName name) : Look.itemStart (.word name :: ts) =
    (Look.word "union" (.word name :: ts) && Look.second Look.name (.word name :: ts) ||
      Look.word "auto" (.word name :: ts) &&
        Look.second (Look.word "trait") (.word name :: ts) ||
      Look.word "default" (.word name :: ts) &&
        Look.second (Look.any [.word "unsafe", .word "impl"]) (.word name :: ts)) := by
  have hne : ∀ other, Text.isReserved other = true → name ≠ other := fun _ => h.ne
  simp (disch := decide) [Look.itemStart, hne]

theorem itemStart_eq_false (h : PathStart ts) (hsecond : Look.second Look.anyWord ts = false)
    (hroot : Look.word "crate" ts = true → Look.second (Look.sign "::") ts = true) :
    Look.itemStart ts = false := by
  cases h with
  | @name first h later =>
      rw [itemStart_name h]
      rcases later with _ | ⟨_ | _ | _ | _, later⟩
      case cons.word => simp at hsecond
      all_goals simp
  | root => simpa [Look.itemStart] using hroot
  | _ => simp [Look.itemStart]

/-- One segment of a path without arguments. -/
theorem run_plainPath_go {spelled : List Token} {hasVerbatim : Bool} (hword : IsSegment word)
    (n : Nat) :
    plainPath.go (n + 1) ⟨.word word :: ts, spelled, hasVerbatim⟩ =
      if Look.plainSegment (.word word :: ts) then
        if Look.sign "::" ts then
          andThen (fun names => pure (word :: names))
            (plainPath.go n ⟨ts.drop 2, .sign ':' false :: .sign ':' true :: .word word :: spelled,
              hasVerbatim⟩)
        else some ([word], ⟨ts, .word word :: spelled, hasVerbatim⟩)
      else none := by
  cases hplain : Look.plainSegment (.word word :: ts) <;> cases hcolons : Look.sign "::" ts <;>
    simp [plainPath.go, hplain, hcolons, run_anyWord hword.isWord]

/-- A path without arguments is not read where arguments follow. -/
theorem plainPath_go_eq_none {words : List String} {spelled : List Token} {hasVerbatim : Bool}
    (hword : IsSegment word) (hwords : ∀ other ∈ words, IsSegment other) (n : Nat) :
    plainPath.go n ⟨.word word :: (PathPrefix.furtherTokens words ++
      .sign ':' true :: .sign ':' false :: .sign '<' joined :: ts), spelled, hasVerbatim⟩ =
        none := by
  induction words generalizing word n spelled with
  | nil =>
      have hangle : ∀ n spelled, plainPath.go n ⟨.sign '<' joined :: ts, spelled, hasVerbatim⟩ =
          none := by
        intro n spelled
        cases n <;> simp [plainPath.go, Look.plainSegment]
      rcases n with _ | n
      · rfl
      · rw [run_plainPath_go hword]
        simp [PathPrefix.furtherTokens, hangle]
  | cons other words ih =>
      have hlater : ∀ n spelled, plainPath.go n ⟨.word other :: (PathPrefix.furtherTokens words ++
          .sign ':' true :: .sign ':' false :: .sign '<' joined :: ts), spelled, hasVerbatim⟩ =
            none := fun n spelled =>
        ih (hwords other List.mem_cons_self)
          (fun word hword => hwords word (List.mem_cons_of_mem _ hword)) n
      rcases n with _ | n
      · rfl
      · rw [run_plainPath_go hword]
        simp only [PathPrefix.furtherTokens, List.flatMap_cons, List.cons_append,
          List.nil_append] at hlater ⊢
        simp [hlater]

/-- An item of the runtime with arguments in angle brackets begins an expression. -/
theorem beginsExpression_item {path : PathPrefix} (hpath : path.IsReadable) (h : IsName name) :
    BeginsExpression (path.tokens ++ .sign ':' true :: .sign ':' false :: .word name ::
      .sign ':' true :: .sign ':' false :: .sign '<' joined :: ts) where
  pathStart := hpath.pathStart
  noItem := by
    refine itemStart_eq_false hpath.pathStart ?_ ?_ <;>
      cases hglobal : path.isGlobal <;> cases hmore : path.more <;>
        simp [PathPrefix.tokens, hglobal, hmore, PathPrefix.furtherTokens]
  noMacro {spelled hasVerbatim outcome c} houtcome := by
    have hsegments : ∀ word ∈ path.more ++ [name], IsSegment word := by
      simp only [List.mem_append, List.mem_singleton]
      rintro word (hword | rfl)
      · exact hpath.isSegment word (List.mem_cons_of_mem _ hword)
      · exact .inl h
    have hnone : ∀ n spelled, plainPath.go n ⟨.word path.first ::
        (PathPrefix.furtherTokens (path.more ++ [name]) ++
          .sign ':' true :: .sign ':' false :: .sign '<' joined :: ts), spelled, hasVerbatim⟩ =
            none := fun n spelled =>
      plainPath_go_eq_none (hpath.isSegment path.first List.mem_cons_self) hsegments n
    simp only [PathPrefix.furtherTokens, List.flatMap_append, List.flatMap_cons, List.flatMap_nil,
      List.append_assoc, List.cons_append, List.nil_append] at hnone
    rw [plainPath] at houtcome
    cases hglobal : path.isGlobal <;>
      simp [PathPrefix.tokens, hglobal, PathPrefix.furtherTokens, hnone] at houtcome

/-- A word that no path follows begins an expression. -/
theorem beginsExpression_word (h : PathStart (.word word :: rest)) (hword : IsSegment word)
    (hroot : word ≠ "crate")
    (hsecond : Look.anyWord rest = false) (hcolons : Look.sign "::" rest = false)
    (hbang : Look.sign "!" rest = false) : BeginsExpression (.word word :: rest) where
  pathStart := h
  noItem := itemStart_eq_false h (by simp [hsecond]) (by simp [hroot])
  noMacro {spelled hasVerbatim outcome c} houtcome := by
    cases hplain : Look.plainSegment (.word word :: rest) <;>
      simp [plainPath, run_plainPath_go hword, hplain, hcolons] at houtcome
    rw [← houtcome.2]
    exact hbang

/-- A function of a type begins an expression. -/
theorem beginsExpression_call {delimiter : Delimiter} {inner : List Token} (h : IsName word)
    (hname : IsName name) :
    BeginsExpression (.word word :: .sign ':' true :: .sign ':' false :: .word name ::
      .group delimiter inner :: rest) where
  pathStart := .name h _
  noItem := itemStart_eq_false (.name h _) (by simp) (by simp)
  noMacro {spelled hasVerbatim outcome c} houtcome := by
    simp [plainPath, run_plainPath_go (.inl h), run_plainPath_go (.inl hname), Look.plainSegment,
      h.isReserved, hname.isReserved] at houtcome
    rw [← houtcome.2]
    simp

/-- An expression with a semicolon after it as a statement. -/
theorem reads_statement_semicolon (h : BeginsExpression ts)
    (hexpression : Reads (g .statementExpression) ts (.sign ';' joined :: rest) ⟨.other, false⟩) :
    Reads (statement g) ts rest false := by
  have hhash : Look.sign "#" ts = false := by cases h.pathStart <;> simp
  have hlet : Look.word "let" ts = false := by
    cases h.pathStart with
    | name hname => simp [hname.ne (by decide : Text.isReserved "let" = true)]
    | _ => simp
  intro spelled hasVerbatim
  simp [statement, outerAttributes, hhash, h.reads_macroStatement?.run, hlet, h.noItem,
    hexpression.run]

/-- An expression as the last statement. -/
theorem reads_statement_last (h : BeginsExpression ts)
    (hexpression : Reads (g .statementExpression) ts [] ⟨.other, false⟩) :
    Reads (statement g) ts [] true := by
  have hhash : Look.sign "#" ts = false := by cases h.pathStart <;> simp
  have hlet : Look.word "let" ts = false := by
    cases h.pathStart with
    | name hname => simp [hname.ne (by decide : Text.isReserved "let" = true)]
    | _ => simp
  intro spelled hasVerbatim
  simp [statement, outerAttributes, hhash, h.reads_macroStatement?.run, hlet, h.noItem,
    hexpression.run]

theorem BeginsExpression.noHash (h : BeginsExpression ts) : Look.sign "#" ts = false := by
  cases h.pathStart <;> simp

theorem BeginsExpression.noSemicolon (h : BeginsExpression ts) : Look.sign ";" ts = false := by
  cases h.pathStart <;> simp

theorem BeginsExpression.ne_nil (h : BeginsExpression ts) : ts ≠ [] := by
  cases h.pathStart <;> simp

/-- A single statement. -/
theorem reads_statements_one {mustEnd : Bool} (h : BeginsExpression ts)
    (hlast : Reads (statement g) ts [] mustEnd) : Reads (statements g) ts [] () := by
  intro spelled hasVerbatim
  simp [statements, h.noSemicolon, h.ne_nil, hlast.run]

/-- Two statements. -/
theorem reads_statements_two {mustEnd : Bool} (h : BeginsExpression ts)
    (hfirst : Reads (statement g) ts mid false) (hmid : BeginsExpression mid)
    (hlast : Reads (statement g) mid [] mustEnd) : Reads (statements g) ts [] () := by
  obtain ⟨t, later, rfl⟩ := List.exists_cons_of_ne_nil h.ne_nil
  intro spelled hasVerbatim
  simp [statements, h.noSemicolon, hfirst.run, hmid.noSemicolon, hmid.ne_nil, hlast.run]

end StructMatch.Source
