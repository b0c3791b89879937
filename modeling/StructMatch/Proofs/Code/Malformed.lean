import StructMatch.Proofs.Code.WellFormed

/-!
# The code of a matcher for a reserved name

A matcher names its type in an import and as an argument.  A reserved word can be neither, so the
code for a type of such a name is not well formed.  In the import only `try` is let through, which
then fails as the argument; the words for the modules above are never names of types.
-/

namespace StructMatch.Source

open Parse

variable {α : Type} {ts rest inner : List Token} {word name text : String} {g : Grammar}

/-- Whether a rule fails on the tokens. -/
def Rejects (rule : Parse α) (ts : List Token) : Prop :=
  ∀ spelled hasVerbatim, rule ⟨ts, spelled, hasVerbatim⟩ = none

theorem Rejects.run {rule : Parse α} (h : Rejects rule ts) {spelled : List Token}
    {hasVerbatim : Bool} : rule ⟨ts, spelled, hasVerbatim⟩ = none :=
  h spelled hasVerbatim

/-! ## Imports -/

theorem rejects_importTree {rooted : Bool} (h : Text.isReserved word = true)
    (hword : word ∉ ["self", "super", "crate", "try"]) :
    Rejects (importTree g rooted) (.word word :: ts) := by
  intro spelled hasVerbatim
  simp only [List.mem_cons, List.not_mem_nil, or_false, not_or] at hword
  simp [importTree, Parse.group, h, hword]

theorem rejects_importTree_super {rooted : Bool}
    (h : Rejects (g (.importTree false)) (.word name :: ts)) :
    Rejects (importTree g rooted)
      (.word "super" :: .sign ':' true :: .sign ':' false :: .word name :: ts) := by
  intro spelled hasVerbatim
  simp (disch := decide) [importTree, run_anyWord, h.run]

theorem rejects_item_import
    (h : Rejects (g (.importTree !false))
      (.word "super" :: .sign ':' true :: .sign ':' false :: .word name :: ts)) :
    Rejects (item g)
      (.word "use" :: .word "super" :: .sign ':' true :: .sign ':' false :: .word name :: ts) := by
  intro spelled hasVerbatim
  simp [item, itemAfter, outerAttributes, visibility, functionAhead, optionalInterface, importItem,
    h.run]

/-- An import lets `try` through, although it is reserved. -/
theorem reads_importTree_try {rooted : Bool} :
    Reads (importTree g rooted) (.word "try" :: .sign ';' false :: rest) (.sign ';' false :: rest)
      false := by
  intro spelled hasVerbatim
  simp (disch := decide) [importTree, run_anyWord]

/-! ## Types -/

theorem rejects_type_try {sums : Bool} : Rejects (Source.type g sums) (.word "try" :: ts) := by
  intro spelled hasVerbatim
  have htry : Text.isReserved "try" = true := by decide
  simp [Source.type, optionalBinder, htry]

theorem rejects_argument_try (h : Rejects g.type (.word "try" :: ts)) :
    Rejects (argument g) (.word "try" :: ts) := by
  intro spelled hasVerbatim
  simp [argument, typeOrConstant, h.run]

theorem rejects_angleArguments (hstart : Look.sign ">" ts = false) (h : Rejects g.argument ts) :
    Rejects (angleArguments g) (.sign '<' false :: ts) := by
  intro spelled hasVerbatim
  simp [angleArguments, angleList, hstart, h.run]

theorem rejects_segment_angle (h : IsName word)
    (hargs : Rejects (angleArguments g) (.sign '<' false :: ts)) :
    Rejects (segment g false) (.word word :: .sign '<' false :: ts) := by
  intro spelled hasVerbatim
  have hne : ∀ other, Text.isReserved other = true → word ≠ other := fun _ => h.ne
  simp (disch := decide) [segment, hne, h.run_name, hargs.run]

/-- The segments after the first one are not read if one of them is not. -/
theorem rejects_furtherSegments {words : List String} (hwords : ∀ word ∈ words, IsSegment word)
    (h : Rejects (segment g false) (.word name :: ts)) :
    ∀ n, (PathPrefix.furtherTokens words ++
        .sign ':' true :: .sign ':' false :: .word name :: ts).length < n →
      Rejects (repeatWhile.go (fun ts => Look.sign "::" ts && !Look.third (Look.group .round) ts)
          (do
            sign "::"
            segment g false) n)
        (PathPrefix.furtherTokens words ++
          .sign ':' true :: .sign ':' false :: .word name :: ts) := by
  induction words with
  | nil =>
      intro n hn spelled hasVerbatim
      obtain ⟨n, rfl⟩ := Nat.exists_eq_add_one_of_ne_zero (by omega : n ≠ 0)
      simp [PathPrefix.furtherTokens, h.run]
  | cons first words ih =>
      intro n hn spelled hasVerbatim
      obtain ⟨n, rfl⟩ := Nat.exists_eq_add_one_of_ne_zero (by omega : n ≠ 0)
      simp only [PathPrefix.furtherTokens, List.flatMap_cons, List.cons_append, List.nil_append,
        List.length_cons] at hn
      have hlater := ih (fun word hword => hwords word (List.mem_cons_of_mem _ hword)) n
        (by simp only [PathPrefix.furtherTokens]; omega)
      have hfirst : Reads (segment g false)
          (.word first :: (PathPrefix.furtherTokens words ++
            .sign ':' true :: .sign ':' false :: .word name :: ts)) _ (.plain first) :=
        reads_segment_words (hwords first List.mem_cons_self) words
      simp only [PathPrefix.furtherTokens, List.flatMap_cons, List.cons_append, List.nil_append,
        look_third_eq] at hfirst hlater ⊢
      simp [hfirst.run, hlater.run]

theorem rejects_path {path : PathPrefix} (hpath : path.IsReadable)
    (h : Rejects (segment g false) (.word name :: ts)) :
    Rejects (Source.path g false)
      (path.tokens ++ .sign ':' true :: .sign ':' false :: .word name :: ts) := by
  have hmore : Rejects (moreSegments g false) (PathPrefix.furtherTokens path.more ++
      .sign ':' true :: .sign ':' false :: .word name :: ts) := by
    exact rejects_furtherSegments
      (fun word hword => hpath.isSegment word (List.mem_cons_of_mem _ hword)) h _
      (Nat.lt_succ_self _)
  have hfirst : Reads (segment g false)
      (.word path.first :: (PathPrefix.furtherTokens path.more ++
        .sign ':' true :: .sign ':' false :: .word name :: ts)) _ (.plain path.first) :=
    reads_segment_words (hpath.isSegment path.first List.mem_cons_self) path.more
  intro spelled hasVerbatim
  unfold Source.path PathPrefix.tokens
  cases path.isGlobal <;> simp [hfirst.run, hmore.run]

theorem rejects_type_of_path {sums : Bool} (hstart : PathStart ts)
    (h : Rejects (Source.path g false) ts) : Rejects (Source.type g sums) ts := by
  have hangle : Look.sign "<" ts = false := by cases hstart <;> simp
  intro spelled hasVerbatim
  rw [run_type_of_pathStart hstart]
  simp [pathType, qualifiedPath, hangle, h.run]

/-! ## Structs -/

theorem rejects_fields (h : IsName name) (htype : Rejects g.type ts) :
    Rejects (fields g) (.group .curly (.word name :: .sign ':' false :: ts) :: rest) := by
  have hne : ∀ other, Text.isReserved other = true → name ≠ other := fun _ => h.ne
  have hfield : Rejects (namedField g) (.word name :: .sign ':' false :: ts) := by
    intro spelled hasVerbatim
    simp (disch := decide) [namedField, outerAttributes, visibility, hne, h.run_name, htype.run]
  intro spelled hasVerbatim
  simp [fields, commas, run_separated, run_separated_go, hfield.run, closeGroup]

theorem rejects_item_struct (h : IsName name)
    (hfields : Rejects (fields g) (.group .curly inner :: rest)) :
    Rejects (item g)
      (.sign '#' false :: .group .square [.word "doc", .sign '=' false, .literal .text text] ::
        .word "pub" :: .word "struct" :: .word name :: .group .curly inner :: rest) := by
  have hcomment : Reads (outerAttributes g) (.sign '#' false ::
      .group .square [.word "doc", .sign '=' false, .literal .text text] ::
        .word "pub" :: .word "struct" :: .word name :: .group .curly inner :: rest)
      (.word "pub" :: .word "struct" :: .word name :: .group .curly inner :: rest) [.other] :=
    reads_outerAttributes_comment (by simp)
  intro spelled hasVerbatim
  simp [item, itemAfter, hcomment.run, visibility, Parse.group, functionAhead, optionalInterface,
    structItem, h.run_name, typeParameters, conditions, hfields.run]

end StructMatch.Source

namespace StructMatch.Code

open Source Parse

variable {ts rest : List Token} {d : Nat} {runtime : PathPrefix} {spec : MatcherSpec}

/-! ## Files -/

/-- The import of a reserved word is rejected, unless the word is let through. -/
theorem rejects_import {word : String} (h : Text.isReserved word = true)
    (hword : word ∉ ["self", "super", "crate", "try"]) (hd : 3 ≤ d) :
    Rejects (grammar d .item)
      (.word "use" :: .word "super" :: .sign ':' true :: .sign ':' false :: .word word :: ts) := by
  obtain ⟨d, rfl⟩ := Nat.exists_eq_add_of_le' hd
  exact rejects_item_import (g := grammar (d + 2)) (rejects_importTree_super (g := grammar (d + 1))
    (rejects_importTree (g := grammar d) h hword))

/-- The import of the word that is let through. -/
theorem reads_import_try (hd : 3 ≤ d) :
    Reads (grammar d .item)
      (.word "use" :: .word "super" :: .sign ':' true :: .sign ':' false :: .word "try" ::
        .sign ';' false :: rest) rest .other := by
  obtain ⟨d, rfl⟩ := Nat.exists_eq_add_of_le' hd
  exact reads_item_import (g := grammar (d + 2)) (reads_importTree_super (g := grammar (d + 1))
    (reads_importTree_try (g := grammar d)))

/-- The struct of a matcher for `try` is rejected. -/
theorem rejects_struct (hruntime : runtime.IsReadable) (hclass : IsName spec.className)
    (hfield : IsName spec.registryField.name) (htry : spec.registryField.target = "try")
    (hd : 6 ≤ d) : Rejects (grammar d .item) (structTokens spec runtime.tokens ++ rest) := by
  obtain ⟨d, rfl⟩ := Nat.exists_eq_add_of_le' hd
  have htarget : Rejects (grammar (d + 5)).type (runtime.tokens ++ Token.sign ':' true ::
      .sign ':' false :: .word "BeanPropertyMatcher" :: .sign '<' false :: .word "try" ::
      .sign '>' false :: .sign ',' false :: []) :=
    rejects_type_of_path (g := grammar (d + 4)) hruntime.pathStart
      (rejects_path hruntime (rejects_segment_angle (by decide) (rejects_angleArguments (by simp)
        (rejects_argument_try (g := grammar (d + 3))
          (rejects_type_try (g := grammar (d + 2)))))))
  have hstruct : Rejects (item (grammar (d + 5))) (.sign '#' false :: .group .square
      [.word "doc", .sign '=' false, .literal .text (Text.literal (structComment spec))] ::
        .word "pub" :: .word "struct" :: .word spec.className :: .group .curly _ :: rest) :=
    rejects_item_struct hclass (rejects_fields hfield htarget)
  have hitem : grammar (d + 6) .item = item (grammar (d + 5)) := rfl
  rw [hitem]
  simpa [structTokens, commentTokens, words, word, square, curly, runtimeItem, textLiteral, htry]
    using hstruct

/-- A file is not read if its items are not. -/
theorem rejects_fileItems {naming : Naming} {items : List Token}
    (hhash : Look.sign "#" items = false)
    (h : Rejects (repeatWhile (fun ts => !Look.nothing ts) (grammar d .item)) items) :
    Rejects (fileItems (grammar d)) (lintTokens naming ++ items) := by
  have hlints : Reads (innerAttributes (grammar d)) (lintTokens naming ++ items) items [.other] :=
    reads_innerAttributes_allow hhash
  intro spelled hasVerbatim
  rw [fileItems, run_bind, hlints.run, andThen_some, h.run]

/-- No file for a reserved word is well formed. -/
theorem holdsVerbatim?_fileTokens_of_isReserved (hruntime : runtime.IsReadable)
    (hclass : IsName spec.className) (hfield : IsName spec.registryField.name)
    (htarget : spec.registryField.target = spec.target.name)
    (hreserved : Text.isReserved spec.target.name = true)
    (hpath : spec.target.name ∉ ["self", "super", "crate"]) :
    holdsVerbatim? (fileTokens spec runtime.tokens) = none := by
  obtain ⟨later, hlater⟩ : ∃ later, fileTokens spec runtime.tokens = lintTokens spec.naming ++
      (Token.word "use" :: .word "super" :: .sign ':' true :: .sign ':' false ::
        .word spec.target.name :: .sign ';' false ::
        (structTokens spec runtime.tokens ++ later)) := ⟨_, rfl⟩
  have hrejects : ∀ d, 6 ≤ d → Rejects (fileItems (grammar d))
      (fileTokens spec runtime.tokens) := by
    intro d hd
    rw [hlater]
    refine rejects_fileItems (by simp) fun spelled hasVerbatim => ?_
    by_cases htry : spec.target.name = "try"
    · have hstruct : Rejects (grammar d .item) (structTokens spec runtime.tokens ++ later) :=
        rejects_struct hruntime hclass hfield (htarget.trans htry) hd
      have hne : (structTokens spec runtime.tokens ++ later).isEmpty = false := by
        simp [structTokens, commentTokens]
      rw [htry]
      simp [(reads_import_try (show 3 ≤ d by omega)).run, hstruct.run, Look.nothing, hne]
    · have hword : spec.target.name ∉ ["self", "super", "crate", "try"] := by
        simp only [List.mem_cons, List.not_mem_nil, or_false, not_or] at hpath ⊢
        exact ⟨hpath.1, hpath.2.1, hpath.2.2, htry⟩
      have himport : Rejects (grammar d .item) (.word "use" :: .word "super" :: .sign ':' true ::
          .sign ':' false :: .word spec.target.name :: .sign ';' false ::
          (structTokens spec runtime.tokens ++ later)) :=
        rejects_import hreserved hword (by omega)
      simp [himport.run]
  have hitems := hrejects (8 * tokenCount (fileTokens spec runtime.tokens) + 16) (by omega)
  simp [holdsVerbatim?, parseAll?, hitems.run]

end StructMatch.Code
