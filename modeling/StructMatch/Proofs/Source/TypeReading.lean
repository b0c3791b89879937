import StructMatch.Proofs.Source.Reading

/-!
# Following the rules for paths and types

The paths and types that the code of a matcher is made of are read as what they are: a name, an item
of the runtime with or without an argument, a reference, and a trait object.  Everywhere a path of
the runtime stands before the items, and all that is asked of it is that its first word can begin a
type.
-/

namespace StructMatch.Source

open Parse

variable {ts mid rest : List Token} {word name : String} {joined inExpression sums : Bool}
  {g : Grammar}

/-! ## Segments -/

/-- Whether a word can be a segment of a path. -/
def IsSegment (word : String) : Prop :=
  IsName word ∨ word ∈ ["super", "self", "crate", "try", "Self"]

theorem IsSegment.isWord (h : IsSegment word) :
    Text.isIdentifier (Text.unraw word).toList = true := by
  rcases h with h | h
  · exact h.isWord
  · simp only [List.mem_cons, List.not_mem_nil, or_false] at h
    rcases h with rfl | rfl | rfl | rfl | rfl <;> decide

/-- Whether neither arguments nor further segments follow a segment. -/
structure EndsPath (rest : List Token) : Prop where
  noAngle : Look.sign "<" rest = false
  noColons : Look.sign "::" rest = false

theorem reads_segment (h : IsSegment word) (hangle : Look.sign "<" rest = false)
    (hcolons : (Look.sign "::" rest && Look.third (Look.sign "<") rest) = false) :
    Reads (segment g inExpression) (.word word :: rest) rest (.plain word) := by
  intro spelled hasVerbatim
  rw [look_third_eq] at hcolons
  rcases h with h | h
  · have hne : ∀ other, Text.isReserved other = true → word ≠ other := fun _ => h.ne
    simp (disch := decide) [segment, hne, h.run_name, hangle, hcolons]
  · simp only [List.mem_cons, List.not_mem_nil, or_false] at h
    rcases h with rfl | rfl | rfl | rfl | rfl <;>
      simp (disch := decide) [segment, run_anyWord, hangle, hcolons]

theorem reads_segment_angle (h : IsName word) {args : List Argument}
    (hargs : Reads (angleArguments g) (.sign '<' false :: ts) rest args) :
    Reads (segment g false) (.word word :: .sign '<' false :: ts) rest
      (.mk word (.angle false args)) := by
  intro spelled hasVerbatim
  have hne : ∀ other, Text.isReserved other = true → word ≠ other := fun _ => h.ne
  simp (disch := decide) [segment, hne, h.run_name, hargs.run]

theorem reads_segment_turbofish (h : IsName word) {args : List Argument}
    (hargs : Reads (angleArguments g) (.sign '<' joined :: ts) rest args) :
    Reads (segment g true)
      (.word word :: .sign ':' true :: .sign ':' false :: .sign '<' joined :: ts) rest
      (.mk word (.angle true args)) := by
  intro spelled hasVerbatim
  have hne : ∀ other, Text.isReserved other = true → word ≠ other := fun _ => h.ne
  simp (disch := decide) [segment, hne, h.run_name, hargs.run]

/-! ## Paths -/

/-- Whether the segments after the first one are read. -/
abbrev ReadsFurther (g : Grammar) (inExpression : Bool) (ts rest : List Token)
    (segments : List Segment) : Prop :=
  Repeats (fun ts => Look.sign "::" ts && !Look.third (Look.group .round) ts)
    (do
      sign "::"
      segment g inExpression) ts rest segments

theorem readsFurther_nil (h : Look.sign "::" ts = false) : ReadsFurther g inExpression ts ts [] :=
  repeats_nil _ (by simp [h])

theorem readsFurther_cons {first : Segment} {segments : List Segment}
    (hfirst : Reads (segment g inExpression) (.word word :: ts) mid first)
    (hlength : mid.length ≤ ts.length) (hmore : ReadsFurther g inExpression mid rest segments) :
    ReadsFurther g inExpression (.sign ':' true :: .sign ':' false :: .word word :: ts) rest
      (first :: segments) := by
  refine repeats_cons (by simp) ?_ (by simp; omega) hmore
  intro spelled hasVerbatim
  simp [hfirst.run]

/-- A path without arguments before further segments. -/
structure PathPrefix where
  isGlobal : Bool
  first : String
  more : List String

namespace PathPrefix

/-- The tokens of segments that go on a path. -/
def furtherTokens (words : List String) : List Token :=
  words.flatMap fun word => [.sign ':' true, .sign ':' false, .word word]

variable (path : PathPrefix)

/-- The tokens of the path. -/
def tokens : List Token :=
  (if path.isGlobal then [.sign ':' true, .sign ':' false] else []) ++
    .word path.first :: furtherTokens path.more

/-- The segments of the path. -/
def segments : List Segment := (path.first :: path.more).map Segment.plain

/-- Whether types and expressions can begin with the path. -/
structure IsReadable : Prop where
  isSegment : ∀ word ∈ path.first :: path.more, IsSegment word
  notTry : path.isGlobal = false → path.first ≠ "try"

end PathPrefix

/-- A segment before segments without arguments. -/
theorem reads_segment_words (h : IsSegment word) (words : List String) :
    Reads (segment g inExpression)
      (.word word :: (PathPrefix.furtherTokens words ++
        .sign ':' true :: .sign ':' false :: .word name :: ts))
      (PathPrefix.furtherTokens words ++ .sign ':' true :: .sign ':' false :: .word name :: ts)
      (.plain word) := by
  refine reads_segment h ?_ ?_ <;> cases words <;> simp [PathPrefix.furtherTokens]

theorem readsFurther_words {words : List String} (hwords : ∀ word ∈ words, IsSegment word)
    {segments : List Segment}
    (h : ReadsFurther g inExpression (.sign ':' true :: .sign ':' false :: .word name :: ts) rest
      segments) :
    ReadsFurther g inExpression
      (PathPrefix.furtherTokens words ++ .sign ':' true :: .sign ':' false :: .word name :: ts) rest
      (words.map Segment.plain ++ segments) := by
  induction words with
  | nil => exact h
  | cons word words ih =>
      have hlater := ih fun other hother => hwords other (List.mem_cons_of_mem _ hother)
      exact readsFurther_cons (reads_segment_words (hwords word List.mem_cons_self) words)
        (Nat.le_refl _) hlater

/-- A path goes on after a prefix with what is read there. -/
theorem reads_path {path : PathPrefix} (hpath : path.IsReadable) {segments : List Segment}
    (h : ReadsFurther g inExpression (.sign ':' true :: .sign ':' false :: .word name :: ts) rest
      segments) :
    Reads (Source.path g inExpression)
      (path.tokens ++ .sign ':' true :: .sign ':' false :: .word name :: ts) rest
      ⟨path.isGlobal, path.segments ++ segments⟩ := by
  intro spelled hasVerbatim
  have hmore : Reads (moreSegments g inExpression) _ _ _ :=
    (readsFurther_words (fun word hword => hpath.isSegment word (List.mem_cons_of_mem _ hword))
      h).reads
  have hfirst : Reads (segment g inExpression)
      (.word path.first :: (PathPrefix.furtherTokens path.more ++
        .sign ':' true :: .sign ':' false :: .word name :: ts)) _ (.plain path.first) :=
    reads_segment_words (hpath.isSegment path.first List.mem_cons_self) path.more
  unfold Source.path PathPrefix.tokens PathPrefix.segments
  cases path.isGlobal <;> simp [hfirst.run, hmore.run]

/-- A word as a path. -/
theorem reads_path_word (h : IsSegment word) (hend : EndsPath rest) :
    Reads (Source.path g inExpression) (.word word :: rest) rest ⟨false, [.plain word]⟩ := by
  intro spelled hasVerbatim
  have hfirst : Reads (segment g inExpression) (.word word :: rest) rest (.plain word) :=
    reads_segment h hend.noAngle (by simp [hend.noColons])
  have hmore : Reads (moreSegments g inExpression) _ _ _ := (readsFurther_nil hend.noColons).reads
  simp [Source.path, hfirst.run, hmore.run]

/-- An item of the runtime as a path. -/
theorem reads_path_item {path : PathPrefix} (hpath : path.IsReadable) (h : IsName name)
    (hend : EndsPath rest) :
    Reads (Source.path g inExpression)
      (path.tokens ++ .sign ':' true :: .sign ':' false :: .word name :: rest) rest
      ⟨path.isGlobal, path.segments ++ [Segment.plain name]⟩ :=
  reads_path hpath (readsFurther_cons
    (reads_segment (.inl h) hend.noAngle (by simp [hend.noColons])) (Nat.le_refl _)
    (readsFurther_nil hend.noColons))

/-- An item of the runtime with arguments as a path of a type. -/
theorem reads_path_item_angle {path : PathPrefix} (hpath : path.IsReadable) (h : IsName name)
    {args : List Argument} (hargs : Reads (angleArguments g) (.sign '<' false :: ts) rest args)
    (hlength : rest.length ≤ ts.length) (hcolons : Look.sign "::" rest = false) :
    Reads (Source.path g false)
      (path.tokens ++ .sign ':' true :: .sign ':' false :: .word name :: .sign '<' false :: ts) rest
      ⟨path.isGlobal, path.segments ++ [Segment.mk name (.angle false args)]⟩ :=
  reads_path hpath (readsFurther_cons (reads_segment_angle h hargs) (by simp; omega)
    (readsFurther_nil hcolons))

/-- The beginning of a path that stands for itself. -/
inductive PathStart : List Token → Prop
  | name {first : String} (h : IsName first) (later : List Token) : PathStart (.word first :: later)
  | parent (later : List Token) : PathStart (.word "super" :: later)
  | here (later : List Token) : PathStart (.word "self" :: later)
  | same (later : List Token) : PathStart (.word "Self" :: later)
  | root (later : List Token) : PathStart (.word "crate" :: later)
  | global (later : List Token) : PathStart (.sign ':' true :: .sign ':' false :: later)

theorem PathPrefix.IsReadable.pathStart {path : PathPrefix} (h : path.IsReadable) :
    PathStart (path.tokens ++ ts) := by
  unfold PathPrefix.tokens
  cases hglobal : path.isGlobal with
  | true => exact .global _
  | false =>
      rcases h.isSegment _ List.mem_cons_self with hname | hfirst
      · exact .name hname _
      · simp only [List.mem_cons, List.not_mem_nil, or_false] at hfirst
        rcases hfirst with hfirst | hfirst | hfirst | hfirst | hfirst
        · rw [hfirst]; exact .parent _
        · rw [hfirst]; exact .here _
        · rw [hfirst]; exact .root _
        · exact absurd hfirst (h.notTry hglobal)
        · rw [hfirst]; exact .same _

theorem reads_qualifiedPath {path : SourcePath} (hstart : PathStart ts)
    (hpath : Reads (Source.path g inExpression) ts rest path) :
    Reads (qualifiedPath g inExpression) ts rest (.path path.isGlobal path.segments) := by
  intro spelled hasVerbatim
  have hangle : Look.sign "<" ts = false := by cases hstart <;> simp
  simp [qualifiedPath, hangle, hpath.run]

/-! ## Types -/

/-- Whether a type that is a path ends before the given tokens. -/
structure EndsType (rest : List Token) : Prop extends EndsPath rest where
  noBang : Look.sign "!" rest = false
  noPlus : Look.sign "+" rest = false

namespace EndsType

theorem nil : EndsType [] := ⟨⟨by simp, by simp⟩, by simp, by simp⟩

theorem words (text : String) (ts : List Token) : EndsType (.word text :: ts) :=
  ⟨⟨by simp, by simp⟩, by simp, by simp⟩

theorem group (delimiter : Delimiter) (inner ts : List Token) :
    EndsType (.group delimiter inner :: ts) :=
  ⟨⟨by simp, by simp⟩, by simp, by simp⟩

theorem sign {c : Char} (h : c ∉ ['<', '!', '+']) (ts : List Token) :
    EndsType (.sign c false :: ts) := by
  simp only [List.mem_cons, List.not_mem_nil, or_false, not_or, eq_comm (a := c)] at h
  exact ⟨⟨by simp [h], by simp⟩, by simp [h], by simp [h]⟩

end EndsType

theorem reads_pathType {path : SourcePath} (hstart : PathStart ts)
    (hpath : Reads (Source.path g false) ts rest path) (hend : EndsType rest) :
    Reads (pathType g sums none []) ts rest (.path path.isGlobal path.segments) := by
  intro spelled hasVerbatim
  have hqualified := reads_qualifiedPath hstart hpath
  simp [pathType, macroAfter, hqualified.run, hend.noBang, hend.noPlus]

/-- A type that begins like a path is one. -/
theorem run_type_of_pathStart {spelled : List Token} {hasVerbatim : Bool} (hstart : PathStart ts) :
    Source.type g sums ⟨ts, spelled, hasVerbatim⟩ =
      pathType g sums none [] ⟨ts, spelled, hasVerbatim⟩ := by
  cases hstart with
  | name h =>
      have hne : ∀ other, Text.isReserved other = true → _ ≠ other := fun _ => h.ne
      simp (disch := decide) [Source.type, optionalBinder, hne, h.isReserved]
  | _ => simp (disch := decide) [Source.type, optionalBinder]

theorem reads_type_of_path {path : SourcePath} (hstart : PathStart ts)
    (hpath : Reads (Source.path g false) ts rest path) (hend : EndsType rest) :
    Reads (Source.type g sums) ts rest (.path path.isGlobal path.segments) := by
  intro spelled hasVerbatim
  rw [run_type_of_pathStart hstart]
  exact reads_pathType hstart hpath hend spelled hasVerbatim

/-- A name as a type. -/
theorem reads_type_of_name (h : IsName word) (hend : EndsType rest) :
    Reads (Source.type g sums) (.word word :: rest) rest (.path false [.plain word]) :=
  reads_type_of_path (.name h rest) (reads_path_word (.inl h) hend.toEndsPath) hend

/-- A reference to a type. -/
theorem reads_type_reference {tree : TypeTree} (hstart : PathStart ts)
    (htype : Reads g.typeNoSum ts rest tree) :
    Reads (Source.type g sums) (.sign '&' false :: ts) rest (.reference none false tree) := by
  intro spelled hasVerbatim
  cases hstart with
  | name h =>
      have hne : ∀ other, Text.isReserved other = true → _ ≠ other := fun _ => h.ne
      simp (disch := decide) [Source.type, optionalBinder, hne, htype.run]
  | _ => simp (disch := decide) [Source.type, optionalBinder, htype.run]

/-- A reference by which a value can be changed. -/
theorem reads_type_mutable {tree : TypeTree} (htype : Reads g.typeNoSum ts rest tree) :
    Reads (Source.type g sums) (.sign '&' false :: .word "mut" :: ts) rest
      (.reference none true tree) := by
  intro spelled hasVerbatim
  simp (disch := decide) [Source.type, optionalBinder, htype.run]

/-- A reference to a name that lives as long as the program. -/
theorem reads_type_static {tree : TypeTree} (h : IsName word)
    (htype : Reads g.typeNoSum (.word word :: ts) rest tree) :
    Reads (Source.type g sums)
      (.sign '&' false :: .sign '\'' true :: .word "static" :: .word word :: ts) rest
      (.reference (some "static") false tree) := by
  intro spelled hasVerbatim
  have hne : ∀ other, Text.isReserved other = true → word ≠ other := fun _ => h.ne
  simp (disch := decide) [Source.type, optionalBinder, run_lifetime, hne, htype.run]

/-! ## Bounds -/

theorem reads_traitBound {forms : BoundForms} {path : SourcePath} (hstart : PathStart ts)
    (hpath : Reads (Source.path g false) ts rest path) (hcolons : Look.sign "::" rest = false)
    (hround : Look.group .round rest = false) :
    Reads (traitBound g forms) ts rest
      (.trait false none false path.isGlobal path.segments, false) := by
  intro spelled hasVerbatim
  cases hstart with
  | name h =>
      have hne : ∀ other, Text.isReserved other = true → _ ≠ other := fun _ => h.ne
      simp (disch := decide) [traitBound, optionalBinder, Look.callArguments, hne, hpath.run,
        hcolons, hround]
  | _ =>
      simp (disch := decide) [traitBound, optionalBinder, Look.callArguments, hpath.run, hcolons,
        hround]

/-- A trait as a bound. -/
theorem reads_bound_of_path {forms : BoundForms} {path : SourcePath}
    (hstart : PathStart ts) (hpath : Reads (Source.path g false) ts rest path)
    (hcolons : Look.sign "::" rest = false) (hround : Look.group .round rest = false) :
    Reads (bound g forms) ts rest (.trait false none false path.isGlobal path.segments) := by
  intro spelled hasVerbatim
  have hbound : Reads (traitBound g forms) ts rest _ :=
    reads_traitBound hstart hpath hcolons hround
  cases hstart with
  | name h =>
      have hne : ∀ other, Text.isReserved other = true → _ ≠ other := fun _ => h.ne
      simp (disch := decide) [bound, hne, hbound.run]
  | _ => simp (disch := decide) [bound, hbound.run]

/-- A lifetime as a bound. -/
theorem reads_bound_static {forms : BoundForms} :
    Reads (bound g forms) (.sign '\'' true :: .word "static" :: rest) rest
      (.lifetime "static") := by
  intro spelled hasVerbatim
  simp (disch := decide) [bound, run_lifetime]

/-- A trait object. -/
theorem reads_type_dyn {path : SourcePath} (hstart : PathStart ts)
    (hpath : Reads (Source.path g false) ts rest path) (hcolons : Look.sign "::" rest = false)
    (hround : Look.group .round rest = false) (hplus : Look.sign "+" rest = false) :
    Reads (Source.type g sums) (.word "dyn" :: ts) rest
      (.bounds .dyn [.trait false none false path.isGlobal path.segments] false) := by
  intro spelled hasVerbatim
  have hbound : Reads (bound g plainBounds) ts rest _ :=
    reads_bound_of_path hstart hpath hcolons hround
  have hstar : Look.sign "*" ts = false := by cases hstart <;> simp
  have hobject : Reads (traitBounds g .dyn sums plainBounds) ts rest
      (.bounds .dyn [.trait false none false path.isGlobal path.segments] false) := by
    intro spelled hasVerbatim
    cases sums <;> simp [traitBounds, bounds, moreBounds, hbound.run, hplus, Bound.isTrait]
  simp +decide (disch := decide) [Source.type, optionalBinder, hstar, hobject.run]

/-! ## Arguments -/

/-- A type as an argument. -/
theorem reads_argument {tree : TypeTree} (hlifetime : Look.lifetime ts = false)
    (hliteral : Look.literal ts = false) (hcurly : Look.group .curly ts = false)
    (htype : Reads g.type ts (.sign '>' joined :: rest) tree) :
    Reads (argument g) ts (.sign '>' joined :: rest) (.type tree) := by
  intro spelled hasVerbatim
  have hany : Reads (typeOrConstant g) ts (.sign '>' joined :: rest) tree := by
    intro spelled hasVerbatim
    simp [typeOrConstant, hliteral, hcurly, htype.run]
  simp only [argument, run_bind, run_sees, run_ite, andThen_some, hlifetime, hany.run,
    Bool.false_and, Bool.false_eq_true, if_false]
  split <;> simp

/-- A single argument in angle brackets. -/
theorem reads_angleArguments {arg : Argument} (hstart : Look.sign ">" ts = false)
    (harg : Reads (g .argument) ts (.sign '>' joined :: rest) arg) :
    Reads (angleArguments g) (.sign '<' false :: ts) rest [arg] := by
  intro spelled hasVerbatim
  cases hlength : ts.length <;> cases arg <;>
    simp [angleArguments, angleList, angleList.spellItems, Grammar.argument, hstart, harg.run,
      repeatWhile.go, hlength]

/-! ## Type parameters -/

/-- A name without bounds as a parameter. -/
theorem reads_parameter {nameless : Bool} (h : IsName word) :
    Reads (parameter g nameless) (.word word :: .sign '>' joined :: rest)
      (.sign '>' joined :: rest) (.type [] word [] none) := by
  intro spelled hasVerbatim
  have hne : ∀ other, Text.isReserved other = true → word ≠ other := fun _ => h.ne
  simp (disch := decide) [parameter, outerAttributes, boundsAfterColon, hne, h.run_name]

/-- A single parameter in angle brackets. -/
theorem reads_typeParameters {parameter : Parameter} (hstart : Look.sign ">" ts = false)
    (hparameter : Reads (g (.parameter true)) ts (.sign '>' joined :: rest) parameter) :
    Reads (typeParameters g) (.sign '<' false :: ts) rest (some [parameter]) := by
  intro spelled hasVerbatim
  cases hlength : ts.length <;> cases parameter <;>
    simp [typeParameters, angleList, angleList.spellItems, hstart, hparameter.run, repeatWhile.go,
      hlength]

theorem reads_typeParameters_none (h : Look.sign "<" ts = false) :
    Reads (typeParameters g) ts ts none := by
  intro spelled hasVerbatim
  simp [typeParameters, h]

theorem reads_conditions_none (h : Look.word "where" ts = false) :
    Reads (conditions g) ts ts false := by
  intro spelled hasVerbatim
  simp [conditions, h]

theorem PathStart.noConditionsEnd (h : PathStart ts) : Look.conditionsEnd ts = false := by
  cases h <;> simp [Look.conditionsEnd]

/-- Bounds of one type as the only condition, with a comma after it. -/
theorem reads_conditions {tree : TypeTree} {bounds : List Bound} {body : List Token}
    (h : IsName word)
    (htype : Reads g.type (.word word :: .sign ':' false :: ts) (.sign ':' false :: ts) tree)
    (hbounds : Chains "+" Look.conditionsEnd (bound g parameterBounds) ts
      (.sign ',' joined :: .group .curly body :: rest) bounds) :
    Reads (conditions g) (.word "where" :: .word word :: .sign ':' false :: ts)
      (.group .curly body :: rest) true := by
  have hcondition : Reads (conditions.condition g) (.word word :: .sign ':' false :: ts)
      (.sign ',' joined :: .group .curly body :: rest) () := by
    intro spelled hasVerbatim
    have hfor : word ≠ "for" := h.ne (by decide)
    simp [conditions.condition, optionalBinder, hfor, htype.run, hbounds.reads.run]
  intro spelled hasVerbatim
  simp [conditions, Look.parameters, hcondition.run, run_chained, run_chained_go,
    Look.conditionsEnd]

end StructMatch.Source
