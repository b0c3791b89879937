import Mathlib.Data.List.Forall2
import StructMatch.Proofs.Code.Sections
import StructMatch.Proofs.Code.Spelling

/-!
# The constructs of a matcher file

Each construct that the code of a matcher has, an item with its members, a path, a function, a
closure, is read as the tokens that it is made of, wherever the lines of its layout are broken.  The
path of the runtime is the only part that is not known beforehand, and `KeepsTokens` says what is
asked of it.
-/

namespace StructMatch.Code

open Layout Source

variable {mode : Mode} {cut : Bool}

/-! ## Items -/

theorem prints_bodyLines {members : List (List Doc)} {tokens : List (List Token)}
    (h : List.Forall₂ (Prints mode true false) members tokens) :
    Prints mode false true (bodyLines members) tokens.flatten := by
  induction h with
  | nil => exact .closingLine
  | cons hmember _ ih => simpa [bodyLines] using Prints.hardLine.append (hmember.append ih)

/-- An item is read as its head and the group of its members. -/
theorem Prints.itemWithBody {needs : Bool} {head : List Doc} {members : List (List Doc)}
    {headTokens : List Token} {tokens : List (List Token)}
    (hhead : ∀ mode, Prints mode needs cut head headTokens)
    (hmembers : ∀ mode, List.Forall₂ (Prints mode true false) members tokens) :
    Prints mode false cut (itemWithBody head members) (headTokens ++ curly tokens.flatten) := by
  cases members with
  | nil =>
      obtain rfl : tokens = [] := by
        cases hmembers .flat
        rfl
      exact .braced .curly 0 rfl rfl hhead fun _ => (@Prints.nil _ true).inside
  | cons member members =>
      rw [itemWithBody_eq _ (List.cons_ne_nil _ _)]
      exact .braced .curly 0 rfl rfl hhead fun mode =>
        (prints_bodyLines (hmembers mode)).inside

theorem Prints.statementLine {needs : Bool} {docs : List Doc} {tokens : List Token}
    (h : ∀ mode, Prints mode needs cut docs tokens) :
    Prints mode needs cut (statementLine docs) tokens := .group h

/-! ## Paths -/

/-- Whether laying out the path of the runtime keeps the tokens that it is spelled by, in types and
in expressions. -/
structure KeepsTokens (path : SourcePath) (tokens : List Token) : Prop where
  nonempty : path.segments ≠ []
  /-- No associated type is chosen in the path, so that a call by it is written as a call. -/
  isCall : unmarkedChoice? path.segments = none
  prints : ∀ mode inExpression, Prints mode true false (pathDocs inExpression path) tokens

theorem segmentDocsAll_append (inExpression : Bool) {segments more : List Segment}
    (h : segments ≠ []) (hmore : more ≠ []) : segmentDocsAll inExpression (segments ++ more) =
      segmentDocsAll inExpression segments ++ .text "::" :: segmentDocsAll inExpression more := by
  induction segments with
  | nil => exact absurd rfl h
  | cons segment segments ih =>
      cases segments with
      | nil =>
          obtain ⟨next, rest, rfl⟩ := List.exists_cons_of_ne_nil hmore
          simp [segmentDocsAll]
      | cons next rest =>
          have hcons (rest : List Segment) : segmentDocsAll inExpression (segment :: next :: rest) =
              segmentDocs inExpression segment ++
                .text "::" :: segmentDocsAll inExpression (next :: rest) := by
            rw [segmentDocsAll]
            simp
          rw [List.cons_append, List.cons_append, hcons, ← List.cons_append,
            ih (List.cons_ne_nil _ _), hcons, List.append_assoc, List.cons_append]

theorem unmarkedChoice?_append {segments more : List Segment}
    (h : unmarkedChoice? segments = none) (hmore : unmarkedChoice? more = none) :
    unmarkedChoice? (segments ++ more) = none := by
  fun_induction unmarkedChoice? segments with
  | case1 => exact hmore
  | case2 => exact absurd h (by simp)
  | case3 head rest hplain ih =>
      rw [List.cons_append, unmarkedChoice?, ih (Option.map_eq_none_iff.1 h), Option.map_none]
      exact hplain

/-- A path that goes on with other segments. -/
theorem KeepsTokens.extend {path : SourcePath} {tokens moreTokens : List Token}
    (h : KeepsTokens path tokens) {more : List Segment} (hmore : more ≠ []) (inExpression : Bool)
    (hprints : Prints mode true false (segmentDocsAll inExpression more) moreTokens) :
    Prints mode true false (pathDocs inExpression (path.extend more))
      (tokens ++ signs "::" ++ moreTokens) := by
  have hdocs : pathDocs inExpression (path.extend more) =
      pathDocs inExpression path ++ [Doc.text "::"] ++ segmentDocsAll inExpression more := by
    cases hglobal : path.isGlobal <;>
      simp [pathDocs, typeDocs, SourcePath.extend, segmentDocsAll_append _ h.nonempty hmore,
        hglobal]
  have hcolons : Prints mode false true [.text "::"] (signs "::") := .text (.marks "::" (by decide))
  rw [hdocs]
  exact ((h.prints mode inExpression).append hcolons).append hprints

theorem prints_plain (inExpression : Bool) {name : String} (h : isCodeWord name = true) :
    Prints mode true false (segmentDocs inExpression (.plain name)) (word name) := by
  rw [Segment.plain, segmentDocs, argumentsDocs]
  exact .text (.word h)

theorem prints_typedSegment (inExpression : Bool) {name argument : String}
    (h : isCodeWord name = true) (hargument : isCodeWord argument = true) :
    Prints mode false false (segmentDocs inExpression (typedSegment name argument))
      (word name ++ (if inExpression then signs "::" else []) ++ signs "<" ++ word argument ++
        signs ">") := by
  have hname : Prints mode true false [.text name] (word name) := .text (.word h)
  have harguments (mode : Mode) :
      List.Forall₂ (Prints mode true false) [[.text argument]] [word argument] :=
    .cons (.text (.word hargument)) .nil
  have hdocs : segmentDocs inExpression (typedSegment name argument) = [Doc.text name] ++
      ([Doc.text (if inExpression then "::<" else "<")] ++ listItems level [[.text argument]] ++
        [Doc.text ">"]) := by
    simp [typedSegment, Segment.plain, segmentDocs, argumentsDocs, argumentDocs, argumentDocsAll,
      typeDocs, segmentDocsAll, arguments]
  have hopened : Spells false true (if inExpression then "::<" else "<")
      ((if inExpression then signs "::" else []) ++ signs "<") := by
    cases inExpression with
    | false => exact .marks "<" (by decide)
    | true => exact (Spells.marks "::" (by decide)).append (.marks "<" (by decide))
  rw [hdocs]
  exact (hname.append (.inAngles hopened harguments)).of_eq (by simp)

section Runtime

variable {path : SourcePath} {tokens : List Token} (hpath : KeepsTokens path tokens)
include hpath

theorem prints_runtimeType {name : String} (h : isCodeWord name = true) :
    Prints mode true false (runtimeType path name) (runtimeItem tokens name) :=
  hpath.extend (by simp) false (prints_plain false h)

theorem prints_typedRuntime {name argument : String} (h : isCodeWord name = true)
    (hargument : isCodeWord argument = true) :
    Prints mode true false (pathDocs false (path.extend [typedSegment name argument]))
      (runtimeItem tokens name ++ signs "<" ++ word argument ++ signs ">") := by
  have hsegment : Prints mode true false (segmentDocsAll false [typedSegment name argument]) _ :=
    (prints_typedSegment false h hargument).mono (by decide) (by decide)
  exact (hpath.extend (by simp) false hsegment).of_eq (by simp [runtimeItem])

/-- A call by a path that goes on from that of the runtime. -/
theorem prints_callDocs {more : List Segment} {moreTokens : List Token}
    (hmore : more ≠ []) (hchoice : unmarkedChoice? more = none)
    (hprints : ∀ mode, Prints mode true false (segmentDocsAll true more) moreTokens)
    {items : List (List Doc)} {itemTokens : List (List Token)}
    (hitems : ∀ mode, List.Forall₂ (Prints mode true false) items itemTokens) :
    Prints mode false false (callDocs (path.extend more) items)
      (tokens ++ signs "::" ++ moreTokens ++
        round (itemTokens.intersperse (signs ",")).flatten) := by
  have hcall : callDocs (path.extend more) items = pathDocs true (path.extend more) ++
      ([Doc.text "("] ++ arguments items ++ [Doc.text ")"]) := by
    have hnone : unmarkedChoice? (path.extend more).segments = none :=
      unmarkedChoice?_append hpath.isCall hchoice
    simp [callDocs, hnone]
  rw [hcall]
  exact (hpath.extend hmore true (hprints mode)).append
    (.inBrackets .round 0 rfl rfl (.list hitems))

end Runtime

/-! ## Functions -/

/-- The field of a value. -/
theorem prints_fieldDocs {value field : String} (hvalue : isCodeWord value = true)
    (hfield : isCodeWord field = true) :
    Prints mode true false (fieldDocs value field) (word value ++ signs "." ++ word field) := by
  have hname (mode : Mode) : Prints mode true false [.text value] (word value) :=
    .text (.word hvalue)
  have hdot : Spells true true ("." ++ field) (signs "." ++ word field) :=
    (Spells.marks "." (by decide)).append (.word hfield)
  exact .group fun mode => (Prints.group hname).append ((Prints.softLine true).append (.text hdot))

/-- The type parameters of a function. -/
def genericDocs : List String → List Doc
  | [] => []
  | first :: more =>
    [.text "<"] ++ listItems 0 ((first :: more).map fun t => [.text t]) ++ [.text ">"]

/-- The tokens of the type parameters of a function. -/
def genericTokens : List String → List Token
  | [] => []
  | first :: more =>
    signs "<" ++ (((first :: more).map word).intersperse (signs ",")).flatten ++ signs ">"

/-- The result of a function. -/
def resultGroup : Option (List Doc) → List Doc
  | none => []
  | some type => [.group (-level) true (.text " -> " :: type)]

/-- The tokens of the result of a function. -/
def resultTokens : Option (List Token) → List Token
  | none => []
  | some type => signs "->" ++ type

theorem functionHead_eq (name : String) (typeParameters : List String) (items : List (List Doc))
    (result : Option (List Doc)) : functionHead name typeParameters items result =
      [Doc.text name] ++ genericDocs typeParameters ++
        ([Doc.text "("] ++ ([Doc.line { mayEnd := false }] ++ listItems 0 items) ++
          [Doc.text ")"]) ++ resultGroup result := by
  cases typeParameters <;> cases result <;> simp [functionHead, genericDocs, resultGroup]

theorem prints_genericDocs {typeParameters : List String}
    (h : ∀ t ∈ typeParameters, isCodeWord t = true) :
    Prints mode true true (genericDocs typeParameters) (genericTokens typeParameters) := by
  cases typeParameters with
  | nil => exact .nil
  | cons first more =>
      have hwords (mode : Mode) : List.Forall₂ (Prints mode true false)
          ((first :: more).map fun t => [Doc.text t]) ((first :: more).map word) := by
        rw [List.forall₂_map_left_iff, List.forall₂_map_right_iff, List.forall₂_same]
        exact fun t ht => .text (.word (h t ht))
      exact (Prints.inAngles (.marks "<" (by decide)) hwords).mono (by decide) (by decide)

/-- The result of a function. -/
theorem prints_resultGroup {result : Option (List Doc)} {tokens : Option (List Token)}
    (h : ∀ mode, Option.Rel (Prints mode true false) result tokens) :
    Prints mode true true (resultGroup result) (resultTokens tokens) := by
  cases result with
  | none =>
      cases tokens with
      | none => exact .nil
      | some type => exact nomatch h .flat
  | some type =>
      cases tokens with
      | none => exact nomatch h .flat
      | some ts =>
          have htype (mode : Mode) : Prints mode true false type ts := by
            cases h mode
            assumption
          have harrow : Spells false true " -> " (signs "->") :=
            Spells.blank.append ((Spells.marks "->" (by decide)).append .blank)
          exact .group fun mode => (Prints.text harrow).append (htype mode)

/-- A function up to its body. -/
theorem prints_functionHead {name : String} {nameTokens : List Token}
    (hname : Spells true cut name nameTokens) {typeParameters : List String}
    (htypes : ∀ t ∈ typeParameters, isCodeWord t = true) {items : List (List Doc)}
    {tokens : List (List Token)}
    (hitems : ∀ mode, List.Forall₂ (Prints mode true false) items tokens)
    {result : Option (List Doc)} {typeTokens : Option (List Token)}
    (hresult : ∀ mode, Option.Rel (Prints mode true false) result typeTokens) :
    Prints mode true cut (functionHead name typeParameters items result)
      (nameTokens ++ genericTokens typeParameters ++
        round (tokens.intersperse (signs ",")).flatten ++ resultTokens typeTokens) := by
  have hparameters : Prints mode false true
      ([Doc.text "("] ++ ([Doc.line { mayEnd := false }] ++ listItems 0 items) ++ [Doc.text ")"])
      (round (tokens.intersperse (signs ",")).flatten) :=
    .inBrackets .round 0 rfl rfl fun rest =>
      (emits_soft rfl rfl false _ rest).append (PrintsInside.list hitems rest)
  rw [functionHead_eq]
  exact (((Prints.text hname).append (prints_genericDocs htypes)).append hparameters).append
    (prints_resultGroup hresult)

/-! ## Struct literals and closures -/

/-- The comma after the last field stands only where lines are broken. -/
theorem emits_lastComma (rest : List Char) : Emits codePage mode
    [.line { offset := -level, blanks := 1, before := "," }, .wide] (Scanned true (· = []) rest)
    (Scanned true (LaidOutFrom · (signs ",")) rest) := by
  have hline : Emits codePage mode [.line { offset := -level, blanks := 1, before := "," }]
      (Scanned true (· = []) rest) (Scanned true (LaidOutFrom · (signs ",")) rest) := by
    refine Emits.line
      (fun _ cs hcs _ => hcs.mono (Bool.le_refl true) fun _ hnil => hnil ▸ .commaLeftOut false)
      (fun _ _ cs hcs _ => ?_) fun _ => keptByBlanks_scanned _ _ _
    refine ⟨(hcs.blank (.inr rfl)).scans.sign (by decide) fun actual hnil => ?_,
      fun _ => clear_cons (by decide) (by decide)⟩
    subst hnil
    exact .sign ',' (by simp) .nil
  exact hline.cons (.wide (keptByBlanks_scanned _ _ _))

theorem PrintsInside.lastComma {needs : Bool} {docs : List Doc} {tokens : List Token}
    (h : Prints mode needs cut docs tokens) : PrintsInside mode
      (docs ++ [Doc.line { offset := -level, blanks := 1, before := "," }, .wide])
      (tokens ++ signs ",") :=
  fun rest => (h.loose (signs ",") rest).append (emits_lastComma rest)

/-- Tokens that are laid out from the body of a closure and others, where the body may stand in
curly brackets. -/
def MaybeBraced (body ts actual : List Token) : Prop :=
  LaidOutFrom actual (body ++ ts) ∨ ∃ inner more, actual = .group .curly inner :: more ∧
    LaidOutFrom inner body ∧ LaidOutFrom more ts

/-- A reference to a field. -/
def referenceTokens (value field : String) : List Token :=
  signs "&" ++ (word value ++ signs "." ++ word field)

theorem MaybeBraced.afterBar {value field : String} {ts actual : List Token}
    (h : MaybeBraced (referenceTokens value field) ts actual) (joined : Bool) :
    LaidOutFrom (.sign '|' joined :: actual) (signs "|" ++ referenceTokens value field ++ ts) := by
  rcases h with h | ⟨inner, more, rfl, hinner, hmore⟩
  · exact .sign '|' (by simp) h
  · exact .braces joined false value field hinner hmore

/-- The body of a closure stands in curly brackets if it is broken into lines. -/
theorem emits_closureBody {content : List Doc} {body : List Token}
    (h : ∀ mode, Prints mode true true content body) (ts : List Token) (rest : List Char) :
    Emits codePage mode [.group level true ([Doc.line { before := "\x7b" }] ++ content ++
        [Doc.line { offset := -level, after := "\x7d" }])]
      (Scanned true (LaidOutFrom · ts) rest) (Scanned false (MaybeBraced body ts) rest) := by
  refine Emits.group ?flat ?broken
  case flat =>
    have hopen : Emits codePage .flat [.line { before := "\x7b" }]
        (Scanned true (LaidOutFrom · (body ++ ts)) rest)
        (Scanned false (MaybeBraced body ts) rest) :=
      Emits.line (fun _ cs hcs _ => hcs.mono (by decide) fun _ => .inl)
        (fun _ hflat => absurd rfl hflat) fun _ => keptByBlanks_scanned _ _ _
    have hclose : Emits codePage .flat [.line { offset := -level, after := "\x7d" }]
        (Scanned true (LaidOutFrom · ts) rest) (Scanned true (LaidOutFrom · ts) rest) :=
      Emits.line (fun _ cs hcs _ => hcs) (fun _ hflat => absurd rfl hflat)
        fun _ => keptByBlanks_scanned _ _ _
    exact (hopen.append (h .flat ts rest)).append hclose
  case broken =>
    have hopen : Emits codePage .together [.line { before := "\x7b" }]
        (Inside false (LaidOutFrom · body) .curly (LaidOutFrom · ts) rest)
        (Scanned false (MaybeBraced body ts) rest) := by
      refine Emits.line (fun hstay => absurd hstay (by decide)) (fun _ _ cs hcs _ => ?_)
        fun _ => keptByBlanks_scanned _ _ _
      obtain ⟨more, hinner, hmore⟩ := hcs
      exact ⟨(hinner.blank (.inr rfl)).scans.group hmore fun inner actual hinner hactual =>
        .inr ⟨inner, actual, rfl, hinner, hactual⟩, by simp⟩
    have hclose : Emits codePage .together [.line { offset := -level, after := "\x7d" }]
        (Scanned true (LaidOutFrom · ts) rest)
        (Inside true (· = []) .curly (LaidOutFrom · ts) rest) := by
      refine Emits.line (fun hstay => absurd hstay (by decide)) (fun _ _ cs hcs blanks => ?_)
        fun _ => keptByBlanks_inside _ _ _ _ _
      exact ⟨cs, ((keptByBlanks_scanned true _ _).replicate blanks
        (scanned_close .curly cs)).blank (.inr rfl), hcs.scans⟩
    exact (hopen.append (emits_inside (h .together).inside .curly _ rest)).append hclose

/-- A closure that returns a reference to a field. -/
theorem prints_closure {content : List Doc} {value field : String}
    (h : ∀ mode, Prints mode true true content (referenceTokens value field)) :
    Prints mode true true
      ([Doc.group level true ([Doc.text "|"] ++ ([softLine] ++
          ([Doc.text "item|"] ++ [Doc.line { offset := -level, blanks := 1 }])))] ++
        ([Doc.line { mayEnd := false }] ++ [Doc.group level true
          ([Doc.line { before := "\x7b" }] ++ content ++
            [Doc.line { offset := -level, after := "\x7d" }])]))
      (signs "|" ++ word "item" ++ signs "|" ++ referenceTokens value field) := by
  intro ts rest
  let body (actual : List Token) : Prop := MaybeBraced (referenceTokens value field) ts actual
  let closed : List Token := signs "|" ++ referenceTokens value field ++ ts
  have hitem (mode : Mode) : Emits codePage mode [.text "item|"] (Scanned true body rest)
      (Scanned false (LaidOutFrom · (word "item" ++ closed)) rest) := by
    refine Emits.text (fun cs hcs => ?_) (keptByBlanks_scanned _ _ _)
    have hbar : Scanned true (LaidOutFrom · closed) rest ('|' :: cs) :=
      ⟨hcs.scans.sign (by decide) fun _ hactual => hactual.afterBar _,
        fun _ => clear_cons (by decide) (by decide)⟩
    exact (Spells.word (by decide) : Spells true false "item" (word "item")) _ rest _ hbar
  have hbar (mode : Mode) : Prints mode false true [.text "|"] (signs "|") :=
    .text (.marks "|" (by decide))
  have hgap (mode : Mode) : Emits codePage mode [.line { offset := -level, blanks := 1 }]
      (Scanned false body rest) (Scanned true body rest) :=
    emits_gap (by decide) rfl rfl _ rest
  have hstart (mode : Mode) : Emits codePage mode ([Doc.text "|"] ++ ([softLine] ++
      ([Doc.text "item|"] ++ [Doc.line { offset := -level, blanks := 1 }])))
      (Scanned false body rest)
      (Scanned true (LaidOutFrom · (signs "|" ++ ([] ++ (word "item" ++ closed)))) rest) :=
    (hbar mode _ rest).append ((Prints.softLine false _ rest).append
      ((hitem mode).append (hgap mode)))
  have hkept : Emits codePage mode [.line { mayEnd := false }] (Scanned false body rest)
      (Scanned false body rest) :=
    emits_soft rfl rfl false _ rest
  have htokens : signs "|" ++ word "item" ++ signs "|" ++ referenceTokens value field ++ ts =
      signs "|" ++ ([] ++ (word "item" ++ closed)) := by simp [closed]
  rw [htokens]
  exact (Emits.group (hstart _) (hstart _)).append (hkept.append (emits_closureBody h ts rest))

end StructMatch.Code
