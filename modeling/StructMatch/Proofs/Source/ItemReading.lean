import StructMatch.Proofs.Source.ExpressionReading

/-!
# Following the rules for items

A matcher file holds an import, a struct with one field, implementations with functions and text
constants in them, and a function.  What stands inside of them is asked for here as it is read; that
none of them is spelled verbatim is part of what is shown.
-/

namespace StructMatch.Source

open Parse

variable {ts mid rest inner : List Token} {word name text : String} {joined : Bool} {g : Grammar}

theorem reads_verbatimIf {α : Type} {isVerbatim : α → Bool} {rule : Parse α} {a : α}
    (h : Reads rule ts rest a) (ha : isVerbatim a = false) :
    Reads (verbatimIf isVerbatim rule) ts rest a := by
  intro spelled hasVerbatim
  simp [h.run, ha]

/-! ## Attributes -/

/-- The comment that documents an item. -/
theorem reads_outerAttributes_comment (hrest : Look.sign "#" rest = false) :
    Reads (outerAttributes g)
      (.sign '#' false :: .group .square [.word "doc", .sign '=' false, .literal .text text] ::
        rest) rest [.other] := by
  intro spelled hasVerbatim
  have hcontent : Reads (attributeContent g) [.word "doc", .sign '=' false, .literal .text text] []
      .other := by
    intro spelled hasVerbatim
    have hdoc : Text.isReserved "doc" = false := by decide
    simp (disch := decide) [attributeContent, attributeValue, plainPath, plainPath.go,
      Look.plainSegment, hdoc, run_anyWord, SourcePath.isWord, Segment.plain, Segment.name]
  simp [outerAttributes, hcontent.run, hrest]

/-- Attributes of a file that allow something. -/
theorem reads_innerAttributes_allow (hrest : Look.sign "#" rest = false) :
    Reads (innerAttributes g)
      (.sign '#' joined :: .sign '!' false :: .group .square [.word "allow", .group .round inner] ::
        rest) rest [.other] := by
  intro spelled hasVerbatim
  have hcontent : Reads (attributeContent g) [.word "allow", .group .round inner] [] .other := by
    intro spelled hasVerbatim
    have hallow : Text.isReserved "allow" = false := by decide
    simp (disch := decide) [attributeContent, plainPath, plainPath.go, Look.plainSegment, hallow,
      run_anyWord, SourcePath.isWord, Segment.plain, Segment.name]
  simp [innerAttributes, hcontent.run, hrest]

theorem reads_innerAttributes_none (h : Look.sign "#" ts = false) :
    Reads (innerAttributes g) ts ts [] := by
  intro spelled hasVerbatim
  simp [innerAttributes, h]

/-! ## Functions -/

theorem reads_functionAhead {safe : Bool} :
    Reads (functionAhead safe) (.word "fn" :: ts) (.word "fn" :: ts) true := by
  intro spelled hasVerbatim
  cases safe <;> simp [functionAhead, optionalInterface]

/-- A function up to its body. -/
theorem reads_signature {later : List Token} {parameters? : Option (List Parameter)}
    {result? : Option TypeTree} {conditioned : Bool} (h : IsName name)
    (hgenerics : Reads (typeParameters g) ts (.group .round inner :: mid) parameters?)
    (hparameters : Reads (functionParameters g) inner [] ())
    (hresult : Reads (returnType g.type) mid later result?)
    (hconditions : Reads (conditions g) later rest conditioned) :
    Reads (signature g false) (.word "fn" :: .word name :: ts) rest false := by
  intro spelled hasVerbatim
  simp [signature, optionalInterface, h.run_name, hgenerics.run, hparameters.run, hresult.run,
    hconditions.run]

theorem reads_returnType {type : Parse TypeTree} {tree : TypeTree} (h : Reads type ts rest tree) :
    Reads (returnType type) (.sign '-' true :: .sign '>' false :: ts) rest (some tree) := by
  intro spelled hasVerbatim
  simp [returnType, h.run]

theorem reads_returnType_none {type : Parse TypeTree} (h : Look.sign "->" ts = false) :
    Reads (returnType type) ts ts none := by
  intro spelled hasVerbatim
  simp [returnType, h]

theorem reads_bodyOrSemicolon (hinner : Look.sign "#" inner = false)
    (h : Reads (g .statements) inner [] ()) :
    Reads (bodyOrSemicolon g) (.group .curly inner :: rest) rest true := by
  intro spelled hasVerbatim
  simp [bodyOrSemicolon, bodyBlock, innerAttributes, hinner, h.run]

/-! ### Parameters -/

theorem reads_functionParameters_nil : Reads (functionParameters g) [] [] () := by
  intro spelled hasVerbatim
  simp [functionParameters]

/-- The receivers of the methods of a matcher. -/
inductive IsReceiver : List Token → Prop
  | mutable : IsReceiver [.word "mut", .word "self"]
  | reference : IsReceiver [.sign '&' false, .word "self"]

theorem reads_receiver {receiver : List Token} (h : IsReceiver receiver) :
    Reads (Source.receiver g) (receiver ++ .sign ',' joined :: ts) (.sign ',' joined :: ts) () := by
  intro spelled hasVerbatim
  cases h <;> simp [Source.receiver]

/-- A name is no receiver. -/
theorem run_receiver_of_name {spelled : List Token} {hasVerbatim : Bool} (h : IsName word) :
    receiver g ⟨.word word :: ts, spelled, hasVerbatim⟩ = none := by
  have hne : ∀ other, Text.isReserved other = true → word ≠ other := fun _ => h.ne
  simp (disch := decide) [receiver, hne]

/-- Whether a parameter with its type is read. -/
structure ReadsParameter (g : Grammar) (name : String) (type rest : List Token) : Prop where
  isName : IsName name
  readsName : ∃ kind, Reads (g .pattern) (.word name :: .sign ':' false :: (type ++ rest))
    (.sign ':' false :: (type ++ rest)) kind
  readsType : ∃ tree, Reads g.type (type ++ rest) rest tree
  noDots : Look.sign "..." (type ++ rest) = false

/-- A parameter after the receiver. -/
theorem reads_functionParameters_one {receiver type : List Token} (hreceiver : IsReceiver receiver)
    (h : ReadsParameter g name type []) :
    Reads (functionParameters g)
      (receiver ++ .sign ',' false :: .word name :: .sign ':' false :: type) [] () := by
  obtain ⟨kind, hpattern⟩ := h.readsName
  obtain ⟨tree, htype⟩ := h.readsType
  have hdots := h.noDots
  rw [List.append_nil] at hpattern htype hdots
  intro spelled hasVerbatim
  have hread : Reads (Source.receiver g)
      (receiver ++ .sign ',' false :: .word name :: .sign ':' false :: type)
      (.sign ',' false :: .word name :: .sign ':' false :: type) () :=
    reads_receiver hreceiver
  cases hreceiver <;>
    simp only [List.cons_append, List.nil_append] at hread <;>
    simp [functionParameters, functionParameters.parameter, outerAttributes, hread.run,
      run_receiver_of_name h.isName, hpattern.run, hdots, htype.run]

/-- Two parameters after the receiver. -/
theorem reads_functionParameters_two {receiver type type' : List Token} {name' : String}
    (hreceiver : IsReceiver receiver)
    (h : ReadsParameter g name type
      (.sign ',' false :: .word name' :: .sign ':' false :: type'))
    (h' : ReadsParameter g name' type' []) :
    Reads (functionParameters g)
      (receiver ++ .sign ',' false :: .word name :: .sign ':' false :: (type ++
        .sign ',' false :: .word name' :: .sign ':' false :: type')) [] () := by
  obtain ⟨kind, hpattern⟩ := h.readsName
  obtain ⟨tree, htype⟩ := h.readsType
  obtain ⟨kind', hpattern'⟩ := h'.readsName
  obtain ⟨tree', htype'⟩ := h'.readsType
  have hdots' := h'.noDots
  rw [List.append_nil] at hpattern' htype' hdots'
  intro spelled hasVerbatim
  have hread : Reads (Source.receiver g)
      (receiver ++ .sign ',' false :: .word name :: .sign ':' false :: (type ++
        .sign ',' false :: .word name' :: .sign ':' false :: type'))
      (.sign ',' false :: .word name :: .sign ':' false :: (type ++
        .sign ',' false :: .word name' :: .sign ':' false :: type')) () :=
    reads_receiver hreceiver
  cases hreceiver <;>
    simp only [List.cons_append, List.nil_append] at hread <;>
    simp [functionParameters, functionParameters.parameter, outerAttributes, hread.run,
      run_receiver_of_name h.isName, hpattern.run, h.noDots, htype.run,
      run_receiver_of_name h'.isName, hpattern'.run, hdots', htype'.run]

/-! ## Members -/

/-- Whether a function is read up to its body, and then its body. -/
structure ReadsFunction (g : Grammar) (ts rest : List Token) : Prop where
  startsFunction : ∃ later, ts = .word "fn" :: later
  readsSignature : ∃ body, Reads (signature g false) ts (.group .curly body :: rest) false ∧
    Look.sign "#" body = false ∧ Reads (g .statements) body [] ()

theorem reads_member_function (h : ReadsFunction g ts rest) :
    Reads (implementationMember g) ts rest false := by
  obtain ⟨later, rfl⟩ := h.startsFunction
  obtain ⟨body, hsignature, hhash, hbody⟩ := h.readsSignature
  have hrest : Reads (bodyOrSemicolon g) (.group .curly body :: rest) rest true :=
    reads_bodyOrSemicolon hhash hbody
  intro spelled hasVerbatim
  simp [implementationMember, outerAttributes, visibility, reads_functionAhead.run, hsignature.run,
    hrest.run]

theorem reads_member_publicFunction (h : ReadsFunction g ts rest) :
    Reads (implementationMember g) (.word "pub" :: ts) rest false := by
  obtain ⟨later, rfl⟩ := h.startsFunction
  obtain ⟨body, hsignature, hhash, hbody⟩ := h.readsSignature
  have hrest : Reads (bodyOrSemicolon g) (.group .curly body :: rest) rest true :=
    reads_bodyOrSemicolon hhash hbody
  intro spelled hasVerbatim
  simp [implementationMember, outerAttributes, visibility, group, reads_functionAhead.run,
    hsignature.run, hrest.run]

/-- A text constant. -/
theorem reads_member_constant {type : List Token} {tree : TypeTree} {kind : ExpressionKind}
    (h : IsName name)
    (htype : Reads g.type
      (type ++ .sign '=' false :: .literal .text text :: .sign ';' false :: rest)
      (.sign '=' false :: .literal .text text :: .sign ';' false :: rest) tree)
    (hvalue : Reads g.expression (.literal .text text :: .sign ';' false :: rest)
      (.sign ';' false :: rest) kind) :
    Reads (implementationMember g)
      (.word "const" :: .word name :: .sign ':' false :: (type ++
        .sign '=' false :: .literal .text text :: .sign ';' false :: rest)) rest false := by
  have hne : ∀ other, Text.isReserved other = true → name ≠ other := fun _ => h.ne
  have hitem : Reads (constantItem g)
      (.word "const" :: .word name :: .sign ':' false :: (type ++
        .sign '=' false :: .literal .text text :: .sign ';' false :: rest)) rest ⟨true, false⟩ := by
    intro spelled hasVerbatim
    simp [constantItem, h.isReserved, run_anyWord h.isWord, typeParameters, htype.run, hvalue.run,
      conditions]
  intro spelled hasVerbatim
  simp (disch := decide) [implementationMember, outerAttributes, visibility, functionAhead,
    optionalInterface, hne, hitem.run, DeclarationForm.isDefinition]

/-! ## Items -/

/-- The members of an implementation. -/
theorem reads_members (hhash : Look.sign "#" inner = false)
    (hmembers : PassesRow (fun ts => !Look.nothing ts) (verbatimIf id (implementationMember g))
      inner []) :
    Reads (members g (implementationMember g)) (.group .curly inner :: rest) rest () := by
  intro spelled hasVerbatim
  have hinner : Reads (innerAttributes g) inner inner [] := reads_innerAttributes_none hhash
  simp only [members, ↓run_group, if_true, ↓run_bind, hinner.run, hmembers.passes.run, andThen_some,
    run_pure, closeGroup_some]
  exact ⟨_, rfl⟩

/-- An implementation of a name. -/
theorem reads_implementation {tree : TypeTree} (h : IsName name)
    (htype : Reads g.type (.word name :: .group .curly inner :: rest) (.group .curly inner :: rest)
      tree)
    (hmembers : Reads (members g (implementationMember g)) (.group .curly inner :: rest) rest ()) :
    Reads (implementation g) (.word "impl" :: .word name :: .group .curly inner :: rest) rest
      false := by
  have hne : ∀ other, Text.isReserved other = true → name ≠ other := fun _ => h.ne
  intro spelled hasVerbatim
  simp (disch := decide) [implementation, Look.parameters, hne, htype.run, conditions, hmembers.run]

/-- An implementation of a trait for a name. -/
theorem reads_implementation_of_trait {tree : TypeTree} {isGlobal : Bool} {segments : List Segment}
    (hstart : PathStart ts)
    (htrait : Reads g.type ts (.word "for" :: .word name :: .group .curly inner :: rest)
      (.path isGlobal segments))
    (htype : Reads g.type (.word name :: .group .curly inner :: rest) (.group .curly inner :: rest)
      tree)
    (hmembers : Reads (members g (implementationMember g)) (.group .curly inner :: rest) rest ()) :
    Reads (implementation g) (.word "impl" :: ts) rest false := by
  intro spelled hasVerbatim
  cases hstart with
  | name h =>
      have hne : ∀ other, Text.isReserved other = true → _ ≠ other := fun _ => h.ne
      simp (disch := decide) [implementation, Look.parameters, hne, htrait.run, htype.run,
        conditions, hmembers.run, TypeTree.path?]
  | _ =>
      simp (disch := decide) [implementation, Look.parameters, htrait.run, htype.run, conditions,
        hmembers.run, TypeTree.path?]

theorem reads_item_implementation (h : Reads (implementation g) (.word "impl" :: ts) rest false) :
    Reads (item g) (.word "impl" :: ts) rest .other := by
  intro spelled hasVerbatim
  simp [item, itemAfter, outerAttributes, visibility, functionAhead, optionalInterface, h.run]

/-- The import of a name from the module around. -/
theorem reads_item_import
    (hparent : Reads (g (.importTree !false))
      (.word "super" :: .sign ':' true :: .sign ':' false :: .word name :: .sign ';' false :: rest)
      (.sign ';' false :: rest) false) :
    Reads (item g)
      (.word "use" :: .word "super" :: .sign ':' true :: .sign ':' false :: .word name ::
        .sign ';' false :: rest) rest .other := by
  intro spelled hasVerbatim
  simp [item, itemAfter, outerAttributes, visibility, functionAhead, optionalInterface, importItem,
    hparent.run]

theorem reads_importTree_super {rooted : Bool}
    (h : Reads (g (.importTree false)) (.word name :: ts) rest false) :
    Reads (importTree g rooted)
      (.word "super" :: .sign ':' true :: .sign ':' false :: .word name :: ts) rest false := by
  intro spelled hasVerbatim
  simp (disch := decide) [importTree, run_anyWord, h.run]

theorem reads_importTree_name {rooted : Bool} (h : IsName name) :
    Reads (importTree g rooted) (.word name :: .sign ';' false :: rest) (.sign ';' false :: rest)
      false := by
  intro spelled hasVerbatim
  simp (disch := decide) [importTree, run_anyWord h.isWord, h.isReserved]

/-! ### Structs and functions -/

/-- A field with a comma after it. -/
theorem passes_fields {tree : TypeTree} (h : IsName name)
    (htype : Reads g.type ts [.sign ',' joined] tree) :
    Passes (fields g) (.group .curly (.word name :: .sign ':' false :: ts) :: rest) rest := by
  have hne : ∀ other, Text.isReserved other = true → name ≠ other := fun _ => h.ne
  have hfield : Passes (namedField g) (.word name :: .sign ':' false :: ts) [.sign ',' joined] := by
    intro spelled hasVerbatim
    simp (disch := decide) [namedField, outerAttributes, visibility, hne, h.run_name, htype.run]
  intro spelled hasVerbatim
  simp [fields, commas, run_separated, run_separated_go, hfield.run]

/-- A public struct with a comment. -/
theorem passes_item_struct (h : IsName name)
    (hfields : Passes (fields g) (.group .curly inner :: rest) rest) :
    Passes (item g)
      (.sign '#' false :: .group .square [.word "doc", .sign '=' false, .literal .text text] ::
        .word "pub" :: .word "struct" :: .word name :: .group .curly inner :: rest) rest := by
  have hcomment : Reads (outerAttributes g) (.sign '#' false ::
      .group .square [.word "doc", .sign '=' false, .literal .text text] ::
        .word "pub" :: .word "struct" :: .word name :: .group .curly inner :: rest)
      (.word "pub" :: .word "struct" :: .word name :: .group .curly inner :: rest) [.other] :=
    reads_outerAttributes_comment (by simp)
  intro spelled hasVerbatim
  simp [item, itemAfter, hcomment.run, visibility, Parse.group, functionAhead, optionalInterface,
    structItem, h.run_name, typeParameters, conditions, hfields.run]

/-- A public function with a comment. -/
theorem reads_item_function (h : ReadsFunction g ts rest) :
    Reads (item g)
      (.sign '#' false :: .group .square [.word "doc", .sign '=' false, .literal .text text] ::
        .word "pub" :: ts) rest .other := by
  obtain ⟨later, rfl⟩ := h.startsFunction
  obtain ⟨body, hsignature, hhash, hbody⟩ := h.readsSignature
  have hrest : Reads (bodyOrSemicolon g) (.group .curly body :: rest) rest true :=
    reads_bodyOrSemicolon hhash hbody
  have hcomment : Reads (outerAttributes g) (.sign '#' false ::
      .group .square [.word "doc", .sign '=' false, .literal .text text] ::
        .word "pub" :: .word "fn" :: later) (.word "pub" :: .word "fn" :: later) [.other] :=
    reads_outerAttributes_comment (by simp)
  intro spelled hasVerbatim
  simp [item, itemAfter, hcomment.run, visibility, Parse.group, reads_functionAhead.run,
    hsignature.run, hrest.run]

end StructMatch.Source
