import StructMatch.Proofs.Code.Constructs
import StructMatch.Proofs.Code.Names
import StructMatch.Proofs.Code.Rendering

/-!
# The path of the runtime

A path is a text, and the words in it are words of code, `isCodeWord_of_tokenize?`.  So the layout
keeps the tokens of every path without arguments, `keepsTokens_of_isPlain`.
-/

namespace StructMatch.Code

open Layout Source

variable {cs rest : List Char} {text : String}

/-! ## The words of a text -/

theorem isIdentifier_of_plainWord? {word : List Char} (h : plainWord? cs = some (word, rest)) :
    Text.isIdentifier word = true := by
  cases cs with
  | nil => exact absurd h (by simp [plainWord?])
  | cons c cs =>
      rw [plainWord?] at h
      split at h
      · next hstart =>
          obtain ⟨rfl, -⟩ := Prod.mk.inj (Option.some.inj h)
          simp [Text.isIdentifier, hstart]
      · exact absurd h (by simp)

theorem isCodeWord_of_readWord? (h : readWord? cs = some (text, rest)) :
    isCodeWord text = true := by
  unfold readWord? at h
  split at h
  · obtain ⟨⟨word, after⟩, hword, hresult⟩ := Option.bind_eq_some_iff.1 h
    have hidentifier := isIdentifier_of_plainWord? hword
    dsimp only at hresult
    split at hresult
    · exact absurd hresult (by simp)
    · next hpath =>
        obtain ⟨rfl, -⟩ := Prod.mk.inj (Option.some.inj hresult)
        have hraw : Text.isRawIdentifier (String.ofList word) = true := by
          rw [Text.isRawIdentifier, String.toList_ofList, hidentifier, Bool.true_and,
            Bool.not_eq_true']
          exact Bool.eq_false_iff.2 hpath
        simpa [isCodeWord, Text.unraw.afterMark] using hraw
  · obtain ⟨⟨word, after⟩, hword, hresult⟩ := Option.map_eq_some_iff.1 h
    obtain ⟨rfl, -⟩ := Prod.mk.inj hresult
    exact isCodeWord_of_isIdentifier (by simpa using isIdentifier_of_plainWord? hword)

theorem readSignToken?_ne_word (cs : List Char) (text : String) (rest : List Char) :
    readSignToken? cs ≠ some (.word text, rest) := by
  intro h
  obtain ⟨⟨c, after⟩, -, hsign⟩ := Option.bind_eq_some_iff.1 h
  dsimp only at hsign
  split at hsign
  · obtain ⟨⟨word, last⟩, -, hquote⟩ := Option.bind_eq_some_iff.1 hsign
    dsimp only at hquote
    split at hquote <;> exact absurd hquote (by simp)
  · exact absurd hsign (by simp)

theorem isCodeWord_of_readLeaf? (h : readLeaf? cs = some (.word text, rest)) :
    isCodeWord text = true := by
  rw [readLeaf?, Option.or_eq_some_iff] at h
  rcases h with hliteral | ⟨-, h⟩
  · obtain ⟨kind, -, hkind⟩ := List.exists_of_findSome?_eq_some hliteral
    exact absurd hkind (by simp)
  · rw [Option.or_eq_some_iff] at h
    rcases h with hsign | ⟨-, h⟩
    · exact absurd hsign (readSignToken?_ne_word cs text rest)
    · split at h
      · exact absurd h (by simp)
      · obtain ⟨⟨word, after⟩, hword, hresult⟩ := Option.map_eq_some_iff.1 h
        obtain ⟨hword', -⟩ := Prod.mk.inj hresult
        obtain rfl := Token.word.inj hword'
        exact isCodeWord_of_readWord? hword

/-- The comments that document something hold words only inside of a group. -/
theorem word_notMem_of_documentationTokens? {tokens : List Token}
    (h : documentationTokens? cs = some (tokens, rest)) : Token.word text ∉ tokens := by
  obtain ⟨⟨isInner, comment, after⟩, -, hcomment⟩ := Option.bind_eq_some_iff.1 h
  dsimp only at hcomment
  split at hcomment
  · obtain ⟨rfl, -⟩ := Prod.mk.inj (Option.some.inj hcomment)
    cases isInner <;> simp
  · exact absurd hcomment (by simp)

theorem isCodeWord_of_readTokens? {n : Nat} {tokens : List Token}
    (h : readTokens? n cs = some (tokens, rest)) (hmem : .word text ∈ tokens) :
    isCodeWord text = true := by
  induction n generalizing cs rest tokens with
  | zero => exact absurd h (by simp [readTokens?])
  | succ n ih =>
      rw [readTokens?] at h
      dsimp only at h
      split at h
      · next whole after hwhole =>
          -- a comment that documents something, or what could not be read
          obtain ⟨⟨more, last⟩, hmore, hresult⟩ := Option.bind_eq_some_iff.1 h
          obtain ⟨rfl, -⟩ := Prod.mk.inj (Option.some.inj hresult)
          rcases List.mem_append.1 hmem with hmem | hmem
          · rw [Option.or_eq_some_iff] at hwhole
            rcases hwhole with hcomment | ⟨-, hmark⟩
            · exact absurd hmem (word_notMem_of_documentationTokens? hcomment)
            · obtain ⟨_, -, hunreadable⟩ := Option.map_eq_some_iff.1 hmark
              obtain ⟨rfl, -⟩ := Prod.mk.inj hunreadable
              exact absurd hmem (by simp)
          · exact ih hmore hmem
      · obtain ⟨rfl, -⟩ := Prod.mk.inj (Option.some.inj h)
        exact absurd hmem List.not_mem_nil
      · next c after _ _ =>
          split at h
          · -- a group
            obtain ⟨⟨inner, last⟩, -, hgroup⟩ := Option.bind_eq_some_iff.1 h
            dsimp only at hgroup
            split at hgroup
            · exact absurd hgroup (by simp)
            · split at hgroup
              · obtain ⟨⟨more, last⟩, hmore, hresult⟩ := Option.bind_eq_some_iff.1 hgroup
                obtain ⟨rfl, -⟩ := Prod.mk.inj (Option.some.inj hresult)
                exact ih hmore (by simpa using hmem)
              · exact absurd hgroup (by simp)
          · obtain ⟨rfl, -⟩ := Prod.mk.inj (Option.some.inj h)
            exact absurd hmem List.not_mem_nil
          · obtain ⟨⟨leaf, last⟩, hleaf, hnext⟩ := Option.bind_eq_some_iff.1 h
            obtain ⟨⟨more, last⟩, hmore, hresult⟩ := Option.bind_eq_some_iff.1 hnext
            obtain ⟨rfl, -⟩ := Prod.mk.inj (Option.some.inj hresult)
            rcases List.mem_cons.1 hmem with rfl | hmem
            · exact isCodeWord_of_readLeaf? hleaf
            · exact ih hmore hmem

/-- The words of a text are words of code. -/
theorem isCodeWord_of_tokenize? {source : List Token} (h : tokenize? cs = some source)
    (hmem : .word text ∈ source) : isCodeWord text = true := by
  unfold tokenize? at h
  dsimp only at h
  split at h
  · next hread =>
      obtain rfl := Option.some.inj h
      exact isCodeWord_of_readTokens? hread hmem
  · exact absurd h (by simp)

/-! ## Paths without arguments -/

theorem unmarkedChoice?_plain (words : List String) :
    unmarkedChoice? (words.map Segment.plain) = none := by
  induction words with
  | nil => rfl
  | cons word words ih =>
      rw [List.map_cons, Segment.plain, unmarkedChoice?, ih, Option.map_none]
      simp

theorem prints_words {mode : Mode} (inExpression : Bool) (word : String) (words : List String)
    (h : ∀ other ∈ word :: words, isCodeWord other = true) :
    Prints mode true false (segmentDocsAll inExpression ((word :: words).map Segment.plain))
      (Code.word word ++ PathPrefix.furtherTokens words) := by
  induction words generalizing word with
  | nil =>
      rw [List.map_singleton, segmentDocsAll]
      exact (prints_plain inExpression (h word List.mem_cons_self)).of_eq (by
        simp [PathPrefix.furtherTokens])
  | cons next words ih =>
      rw [List.forall_mem_cons] at h
      have hcolons : Prints mode false true [.text "::"] (signs "::") :=
        .text (.marks "::" (by decide))
      have hdocs : segmentDocsAll inExpression ((word :: next :: words).map Segment.plain) =
          segmentDocs inExpression (.plain word) ++ ([Doc.text "::"] ++
            segmentDocsAll inExpression ((next :: words).map Segment.plain)) := by
        rw [List.map_cons, ← List.singleton_append, segmentDocsAll_append _ (by simp) (by simp),
          segmentDocsAll, List.singleton_append]
      rw [hdocs]
      exact ((prints_plain inExpression h.1).append (hcolons.append (ih next h.2))).of_eq (by
        simp [PathPrefix.furtherTokens, Code.word])

theorem keepsTokens_of_isCodeWord {words : PathPrefix}
    (h : ∀ word ∈ words.first :: words.more, isCodeWord word = true) :
    KeepsTokens ⟨words.isGlobal, words.segments⟩ words.tokens where
  nonempty := by simp [PathPrefix.segments]
  isCall := unmarkedChoice?_plain _
  prints mode inExpression := by
    have hwords : Prints mode true false _ _ :=
      prints_words inExpression words.first words.more h
    rw [pathDocs, typeDocs]
    cases hglobal : words.isGlobal with
    | false => exact hwords.of_eq (by simp [PathPrefix.tokens, hglobal, word])
    | true =>
        have hcolons : Prints mode false true [.text "::"] (signs "::") :=
          .text (.marks "::" (by decide))
        exact (hcolons.append hwords).loose.of_eq (by simp [PathPrefix.tokens, hglobal, word])

/-- The layout keeps the tokens of a path without arguments. -/
theorem keepsTokens_of_isPlain {runtime : String} {path : SourcePath} {tokens : List Token}
    (h : readPath? runtime = some (path, tokens)) (hplain : path.isPlain = true) :
    KeepsTokens path tokens := by
  obtain ⟨source, hsource, words, hwords, rfl, rfl⟩ := exists_words_of_readPath? h hplain
  exact keepsTokens_of_isCodeWord fun word hword =>
    isCodeWord_of_tokenize? hsource (hwords word hword).2

/-- The layout keeps the tokens of a runtime that is named by words alone. -/
theorem keepsTokens_of_isPlainRuntime {runtime : String} (h : IsPlainRuntime runtime)
    {path : SourcePath} {tokens : List Token} (hread : readPath? runtime = some (path, tokens)) :
    KeepsTokens path tokens := by
  rw [IsPlainRuntime, hread, Option.any_some, Bool.and_eq_true] at h
  exact keepsTokens_of_isPlain hread h.1

end StructMatch.Code
