import StructMatch.Code.Tokens
import StructMatch.Proofs.Source.ItemReading

/-!
# Reading what a matcher is made of

The types and expressions that the code of a matcher has are read by the grammar, whatever names
stand in them and whatever follows.  The rules of the grammar refer to one another only so deep;
`ReadsFrom` says from which depth on a nonterminal reads what it should.
-/

namespace StructMatch.Source

open Parse

variable {ts rest : List Token} {word name field text : String} {sums literals : Bool} {depth : Nat}
  {runtime : PathPrefix}

/-- Whether a nonterminal reads the tokens up to the rest, and yields the value, in every grammar
that is deep enough. -/
def ReadsFrom (depth : Nat) (n : Nonterminal) (ts rest : List Token) (a : n.Result) : Prop :=
  ∀ d, depth ≤ d → Reads (grammar d n) ts rest a

theorem readsFrom_succ {n : Nonterminal} {a : n.Result}
    (h : ∀ d, depth ≤ d → Reads (grammar (d + 1) n) ts rest a) :
    ReadsFrom (depth + 1) n ts rest a := by
  rintro (_ | d) hd
  · omega
  · exact h d (by omega)

/-- A nonterminal reads what its rule reads in a grammar that is less deep. -/
theorem reads_grammar {d : Nat} (n : Nonterminal) (depth : Nat) {a : n.Result}
    (h : ∀ d, depth ≤ d → Reads (grammar (d + 1) n) ts rest a) (hd : depth + 1 ≤ d) :
    Reads (grammar d n) ts rest a :=
  readsFrom_succ h d hd

/-! ## Types -/

section Types

variable (hruntime : runtime.IsReadable)
include hruntime

theorem readsFrom_type_item (h : IsName name) (hend : EndsType rest) :
    ReadsFrom 1 (.type sums)
      (runtime.tokens ++ .sign ':' true :: .sign ':' false :: .word name :: rest) rest
      (.path runtime.isGlobal (runtime.segments ++ [Segment.plain name])) :=
  readsFrom_succ fun _ _ =>
    reads_type_of_path hruntime.pathStart (reads_path_item hruntime h hend.toEndsPath) hend

end Types

theorem readsFrom_type_name (h : IsName name) (hend : EndsType rest) :
    ReadsFrom 1 (.type sums) (.word name :: rest) rest (.path false [.plain name]) :=
  readsFrom_succ fun _ _ => reads_type_of_name h hend

theorem readsFrom_argument_name (h : IsName name) :
    ReadsFrom 2 .argument (.word name :: .sign '>' false :: rest) (.sign '>' false :: rest)
      (.type (.path false [.plain name])) :=
  readsFrom_succ fun d hd =>
    reads_argument (by simp) (by simp [h.ne (by decide : Text.isReserved "true" = true),
      h.ne (by decide : Text.isReserved "false" = true)]) (by simp)
      (readsFrom_type_name h (.sign (by decide) rest) d hd)

/-- A name as the only argument. -/
theorem reads_angleArguments_name (h : IsName name) (hdepth : 2 ≤ depth) :
    Reads (angleArguments (grammar depth))
      (.sign '<' false :: .word name :: .sign '>' false :: rest) rest
      [.type (.path false [.plain name])] :=
  reads_angleArguments (by simp) (readsFrom_argument_name h depth hdepth)

theorem readsFrom_type_item_of (hruntime : runtime.IsReadable) (hname : IsName name)
    (h : IsName word) (hend : EndsType rest) :
    ReadsFrom 3 (.type sums)
      (runtime.tokens ++ .sign ':' true :: .sign ':' false :: .word name :: .sign '<' false ::
        .word word :: .sign '>' false :: rest) rest
      (.path runtime.isGlobal (runtime.segments ++
        [Segment.mk name (.angle false [.type (.path false [.plain word])])])) :=
  readsFrom_succ fun d hd =>
    reads_type_of_path hruntime.pathStart
      (reads_path_item_angle hruntime hname (reads_angleArguments_name h hd) (by simp; omega)
        hend.noColons) hend

/-! ## Expressions -/

theorem readsFrom_operators {base : Precedence} {left : ExpressionKind} (h : EndsExpression rest) :
    ReadsFrom 1 (.operators literals base left) rest rest left :=
  readsFrom_succ fun _ _ => reads_operators h

theorem readsFrom_expression (h : ReadsFrom (depth + 1) (.operand literals) ts rest .other)
    (hend : EndsExpression rest) : ReadsFrom (depth + 2) (.expression literals) ts rest .other :=
  readsFrom_succ fun d hd =>
    reads_expression (h d hd) (readsFrom_operators hend d (by omega))

theorem readsFrom_statementExpression (hstart : PathStart ts)
    (h : ReadsFrom (depth + 1) (.operand true) ts rest .other) (hend : EndsExpression rest) :
    ReadsFrom (depth + 2) .statementExpression ts rest ⟨.other, false⟩ :=
  readsFrom_succ fun d hd =>
    reads_statementExpression hstart (h d hd) (readsFrom_operators hend d (by omega))

theorem readsFrom_operand_text (hend : EndsExpression rest) :
    ReadsFrom 1 (.operand literals) (.literal .text text :: rest) rest .other :=
  readsFrom_succ fun _ _ => reads_operand_text hend

/-- A word as an expression. -/
theorem readsFrom_operand_word (hstart : PathStart (.word word :: rest)) (h : IsSegment word)
    (hend : EndsExpression rest) :
    ReadsFrom 1 (.operand literals) (.word word :: rest) rest .other :=
  readsFrom_succ fun _ _ =>
    reads_operand_path hstart
      (reads_atom_path hstart (by cases hend <;> simp)
        (reads_pathExpression hstart (reads_path_word h hend.endsPath) (by cases hend <;> simp)
          (by cases hend <;> simp)))
      (reads_trailers_end hend)

/-- A field of what a word stands for. -/
theorem readsFrom_operand_field
    (hstart : PathStart (.word word :: .sign '.' false :: .word field :: rest))
    (h : IsSegment word) (hfield : IsName field) (hend : EndsExpression rest) :
    ReadsFrom 1 (.operand literals) (.word word :: .sign '.' false :: .word field :: rest) rest
      .other :=
  readsFrom_succ fun _ _ =>
    reads_operand_path hstart
      (reads_atom_path hstart (by simp)
        (reads_pathExpression hstart (reads_path_word h ⟨by simp, by simp⟩) (by simp) (by simp)))
      (reads_trailers_field hfield hend)

/-- A reference to a field of what a word stands for. -/
theorem readsFrom_operand_fieldReference
    (hstart : PathStart (.word word :: .sign '.' false :: .word field :: rest))
    (h : IsSegment word) (hraw : word ≠ "raw") (hmut : word ≠ "mut") (hfield : IsName field)
    (hend : EndsExpression rest) :
    ReadsFrom 2 (.operand literals)
      (.sign '&' false :: .word word :: .sign '.' false :: .word field :: rest) rest .other :=
  readsFrom_succ fun d hd =>
    reads_operand_reference hraw hmut (readsFrom_operand_field hstart h hfield hend d hd)

/-! ## Calls -/

theorem second_tokens_ne_hash (runtime : PathPrefix) :
    Look.second (Look.sign "#") (runtime.tokens ++ .sign ':' true :: .sign ':' false :: ts) =
      false := by
  cases hglobal : runtime.isGlobal <;> cases hmore : runtime.more <;>
    simp [PathPrefix.tokens, hglobal, hmore, PathPrefix.furtherTokens]

/-- The last segment of the path of a function, before its arguments. -/
theorem readsFurther_function {g : Grammar} {function : String} {arguments : List Token}
    (h : IsName function) :
    ReadsFurther g true
      (.sign ':' true :: .sign ':' false :: .word function :: .group .round arguments :: rest)
      (.group .round arguments :: rest) [.plain function] :=
  readsFurther_cons (reads_segment (.inl h) (by simp) (by simp)) (Nat.le_refl _)
    (readsFurther_nil (by simp))

/-- A call of an item of the runtime for a type. -/
theorem readsFrom_operand_call {function : String} {arguments : List Token}
    {kinds : List ExpressionKind} (hruntime : runtime.IsReadable) (hname : IsName name)
    (h : IsName word) (hfunction : IsName function)
    (harguments : ∀ d, depth + 2 ≤ d → Reads (commas (grammar d).expression) arguments [] kinds)
    (hend : EndsExpression rest) :
    ReadsFrom (depth + 3) (.operand literals)
      (runtime.tokens ++ .sign ':' true :: .sign ':' false :: .word name :: .sign ':' true ::
        .sign ':' false :: .sign '<' false :: .word word :: .sign '>' false :: .sign ':' true ::
        .sign ':' false :: .word function :: .group .round arguments :: rest) rest .other :=
  readsFrom_succ fun d hd => by
    have hpath : Reads (Source.path (grammar d) true) _ (.group .round arguments :: rest) _ :=
      reads_path hruntime
        (readsFurther_cons (reads_segment_turbofish hname (reads_angleArguments_name h (by omega)))
          (by simp) (readsFurther_function hfunction))
    exact reads_operand_path hruntime.pathStart
      (reads_atom_path hruntime.pathStart (second_tokens_ne_hash runtime)
        (reads_pathExpression hruntime.pathStart hpath (by simp) (by simp)))
      (reads_trailers_call (harguments d hd) hend)

theorem reads_commas_nil {g : Grammar} : Reads (commas g.expression) [] [] [] :=
  (lists_nil g.expression (by simp)).reads

/-- A call of a function of an item of the runtime. -/
theorem readsFrom_operand_function {function : String} (hruntime : runtime.IsReadable)
    (hname : IsName name) (hfunction : IsName function) (hend : EndsExpression rest) :
    ReadsFrom 1 (.operand literals)
      (runtime.tokens ++ .sign ':' true :: .sign ':' false :: .word name :: .sign ':' true ::
        .sign ':' false :: .word function :: .group .round [] :: rest) rest .other :=
  readsFrom_succ fun d _ => by
    have hpath : Reads (Source.path (grammar d) true) _ (.group .round [] :: rest) _ :=
      reads_path hruntime
        (readsFurther_cons (reads_segment (.inl hname) (by simp) (by simp)) (Nat.le_refl _)
          (readsFurther_function hfunction))
    exact reads_operand_path hruntime.pathStart
      (reads_atom_path hruntime.pathStart (second_tokens_ne_hash runtime)
        (reads_pathExpression hruntime.pathStart hpath (by simp) (by simp)))
      (reads_trailers_call reads_commas_nil hend)

/-- A call of a function of a name. -/
theorem readsFrom_operand_function_of_name {function : String} (h : IsName word)
    (hfunction : IsName function) (hend : EndsExpression rest) :
    ReadsFrom 1 (.operand literals)
      (.word word :: .sign ':' true :: .sign ':' false :: .word function ::
        .group .round [] :: rest) rest .other :=
  readsFrom_succ fun d _ => by
    have hword : PathPrefix.IsReadable ⟨false, word, []⟩ :=
      ⟨by simpa using .inl h, fun _ => h.ne (by decide)⟩
    have hpath : Reads (Source.path (grammar d) true) _ (.group .round [] :: rest) _ :=
      reads_path hword (readsFurther_function hfunction)
    exact reads_operand_path (.name h _)
      (reads_atom_path (.name h _) (by simp)
        (reads_pathExpression (.name h _) hpath (by simp) (by simp)))
      (reads_trailers_call reads_commas_nil hend)

/-- The struct with its only field. -/
theorem readsFrom_operand_self {fields : List Token} (hfield : IsName field)
    (hvalue : ReadsFrom (depth + 2) (.expression true) fields [.sign ',' false] .other)
    (hend : EndsExpression rest) :
    ReadsFrom (depth + 3) (.operand true)
      (.word "Self" :: .group .curly (.word field :: .sign ':' false :: fields) :: rest) rest
      .other :=
  readsFrom_succ fun d hd =>
    reads_operand_path (.same _)
      (reads_atom_path (.same _) (by simp)
        (reads_pathExpression_struct (.same _)
          (reads_path_word (.inr (by simp)) ⟨by simp, by simp⟩) hfield (hvalue d hd)))
      (reads_trailers_end hend)

theorem readsFrom_pattern_name {c : Char} (h : IsName word) (hc : c = '|' ∨ c = ':') :
    ReadsFrom 1 .pattern (.word word :: .sign c false :: ts) (.sign c false :: ts) .other :=
  readsFrom_succ fun _ _ => reads_pattern_name h hc

/-- A function that returns a reference to a field of its argument. -/
theorem readsFrom_operand_closure (h : IsName word) (hraw : word ≠ "raw") (hfield : IsName field)
    (hend : EndsExpression rest) :
    ReadsFrom 5 (.operand true)
      (.sign '|' false :: .word word :: .sign '|' false :: .sign '&' false :: .word word ::
        .sign '.' false :: .word field :: rest) rest .other :=
  readsFrom_succ fun d hd =>
    reads_operand_closure
      (readsFrom_pattern_name h (.inl rfl) d (by omega))
      (by simp)
      (readsFrom_expression (readsFrom_operand_fieldReference (.name h _) (.inl h) hraw
        (h.ne (by decide)) hfield hend) hend d (by omega))
      hend

end StructMatch.Source
