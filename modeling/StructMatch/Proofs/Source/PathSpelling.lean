import StructMatch.Proofs.Source.TypeReading

/-!
# The spelling of a path

The code of a matcher names the runtime by the tokens that spell its path.  When no segment of the
path has arguments, these are its words with `::` between them, `exists_prefix_of_readPath?`.
-/

namespace StructMatch.Source

open Parse

variable {g : Grammar} {c c' : Cursor}

theorem andThen_eq_some {α β : Type} {next : α → Parse β} {outcome : Outcome next}
    {result : β × Cursor} (h : andThen next outcome = some result) :
    ∃ a c, outcome = some (a, c) ∧ next a c = some result := by
  rcases outcome with _ | ⟨a, c⟩
  · exact absurd h (by simp)
  · exact ⟨a, c, rfl, h⟩

/-! ## Words -/

theorem text_of_ofText? {text : String} {word : Text.Word}
    (h : Text.Word.ofText? text = some word) : word.text = text := by
  unfold Text.Word.ofText? at h
  split at h
  · rw [← Option.some.inj h]
  · exact absurd h (by simp)

theorem anyWord_eq_some {word : Text.Word} (h : anyWord c = some (word, c')) :
    c.rest = .word word.text :: c'.rest ∧ c'.spelled = .word word.text :: c.spelled := by
  obtain ⟨_ | ⟨first, rest⟩, spelled, hasVerbatim⟩ := c
  · exact absurd h (by simp [anyWord, token])
  · cases first with
    | word text =>
        cases hword : Text.Word.ofText? text with
        | none => exact absurd h (by simp [anyWord, hword])
        | some found =>
            simp only [anyWord, run_bind, run_token, andThen_some, hword, run_pure,
              Option.some.injEq, Prod.mk.injEq] at h
            obtain ⟨rfl, rfl⟩ := h
            rw [text_of_ofText? hword]
            exact ⟨rfl, rfl⟩
    | _ => exact absurd h (by simp [anyWord])

theorem name_eq_some {word : Text.Word} (h : name c = some (word, c')) :
    IsName word.text ∧ c.rest = .word word.text :: c'.rest ∧
      c'.spelled = .word word.text :: c.spelled := by
  simp only [name, run_bind, run_sees, andThen_some] at h
  cases hname : Look.name c.rest with
  | false => exact absurd h (by simp [hname])
  | true =>
      rw [hname, run_require_true, andThen_some] at h
      obtain ⟨hrest, hspelled⟩ := anyWord_eq_some h
      rw [hrest, look_name_cons] at hname
      exact ⟨⟨by simpa using hname, word.isWord⟩, hrest, hspelled⟩

/-! ## Segments -/

/-- A segment that was to have arguments is not plain. -/
theorem arguments_eq_some {word : Text.Word} {opens : Bool} {result : Segment}
    (h : (if opens then do
        let marked ← optionalSign "::"
        return .mk word.text (.angle marked (← angleArguments g))
      else return Segment.plain word.text : Parse Segment) c = some (result, c'))
    (hplain : result.isPlain = true) : result = .plain word.text ∧ c' = c := by
  cases opens with
  | false =>
      obtain ⟨rfl, rfl⟩ := Prod.mk.inj (Option.some.inj h)
      exact ⟨rfl, rfl⟩
  | true =>
      rw [if_pos rfl, run_bind] at h
      obtain ⟨marked, after, -, hnext⟩ := andThen_eq_some h
      rw [run_bind] at hnext
      obtain ⟨arguments, after, -, hresult⟩ := andThen_eq_some hnext
      obtain ⟨rfl, -⟩ := Prod.mk.inj (Option.some.inj hresult)
      exact absurd hplain (by simp [Segment.isPlain])

/-- A segment without arguments is spelled by its word. -/
theorem segment_eq_some {result : Segment} (h : segment g false c = some (result, c'))
    (hplain : result.isPlain = true) :
    ∃ word, IsSegment word ∧ result = .plain word ∧ c.rest = .word word :: c'.rest ∧
      c'.spelled = .word word :: c.spelled := by
  simp only [segment, run_bind, run_sees, andThen_some, run_ite] at h
  split at h
  · next hlook =>
      obtain ⟨word, after, hword, hresult⟩ := andThen_eq_some h
      obtain ⟨hrest, hspelled⟩ := anyWord_eq_some hword
      obtain ⟨rfl, rfl⟩ := Prod.mk.inj (Option.some.inj hresult)
      refine ⟨word.text, .inr ?_, rfl, hrest, hspelled⟩
      simp only [hrest, look_any_cons, look_any_nil, look_word_cons, Bool.or_false, Bool.or_eq_true,
        decide_eq_true_eq] at hlook
      rcases hlook with hword | hword | hword | hword <;> simp [hword]
  · split at h
    · next hlook =>
        obtain ⟨word, after, hword, hnext⟩ := andThen_eq_some h
        obtain ⟨hrest, hspelled⟩ := anyWord_eq_some hword
        rw [hrest, look_word_cons, decide_eq_true_eq] at hlook
        simp only [run_bind, run_sees, andThen_some] at hnext
        obtain ⟨rfl, rfl⟩ := arguments_eq_some hnext hplain
        exact ⟨word.text, .inr (by simp [hlook]), rfl, hrest, hspelled⟩
    · obtain ⟨word, after, hword, hnext⟩ := andThen_eq_some h
      obtain ⟨hname, hrest, hspelled⟩ := name_eq_some hword
      simp only [run_bind, run_sees, andThen_some] at hnext
      obtain ⟨rfl, rfl⟩ := arguments_eq_some hnext hplain
      exact ⟨word.text, .inl hname, rfl, hrest, hspelled⟩

/-- Further segments without arguments are spelled by their words. -/
theorem moreSegments_eq_some {results : List Segment}
    (h : moreSegments g false c = some (results, c'))
    (hplain : ∀ result ∈ results, result.isPlain = true) :
    ∃ words : List String, (∀ word ∈ words, IsSegment word ∧ .word word ∈ c.rest) ∧
      results = words.map .plain ∧
      c'.spelled = (PathPrefix.furtherTokens words).reverse ++ c.spelled := by
  rw [moreSegments, run_repeatWhile] at h
  generalize c.rest.length + 1 = rounds at h
  induction rounds generalizing c results with
  | zero =>
      obtain ⟨rfl, rfl⟩ := Prod.mk.inj (Option.some.inj h)
      exact ⟨[], by simp, rfl, rfl⟩
  | succ rounds ih =>
      rw [run_repeatWhile_go] at h
      split at h
      · obtain ⟨first, after, hfirst, hnext⟩ := andThen_eq_some h
        rw [run_map] at hnext
        obtain ⟨others, last, hothers, hresult⟩ := andThen_eq_some hnext
        obtain ⟨rfl, rfl⟩ := Prod.mk.inj (Option.some.inj hresult)
        rw [run_bind, run_sign] at hfirst
        obtain ⟨_, colons, hcolons, hsegment⟩ := andThen_eq_some hfirst
        obtain ⟨word, hword, rfl, hrest, hspelled⟩ :=
          segment_eq_some hsegment (hplain first List.mem_cons_self)
        obtain ⟨words, hwords, rfl, hmore⟩ :=
          ih (fun result hmem => hplain result (List.mem_cons_of_mem _ hmem)) hothers
        split at hcolons
        · obtain ⟨-, rfl⟩ := Prod.mk.inj (Option.some.inj hcolons)
          have hdrop {token : Token} (h : token ∈ .word word :: after.rest) : token ∈ c.rest :=
            List.mem_of_mem_drop (hrest ▸ h)
          refine ⟨word :: words, List.forall_mem_cons.2
            ⟨⟨hword, hdrop List.mem_cons_self⟩, fun other hother => ?_⟩, rfl, ?_⟩
          · exact ⟨(hwords other hother).1, hdrop (List.mem_cons_of_mem _ (hwords other hother).2)⟩
          · simp [hmore, hspelled, PathPrefix.furtherTokens]
        · exact absurd hcolons (by simp)
      · obtain ⟨rfl, rfl⟩ := Prod.mk.inj (Option.some.inj h)
        exact ⟨[], by simp, rfl, rfl⟩

/-! ## Paths -/

/-- A path without arguments is spelled by its words. -/
theorem path_eq_some {result : SourcePath} (h : path g false c = some (result, c'))
    (hplain : result.isPlain = true) :
    ∃ words : PathPrefix,
      (∀ word ∈ words.first :: words.more, IsSegment word ∧ .word word ∈ c.rest) ∧
      result = ⟨words.isGlobal, words.segments⟩ ∧
      c'.spelled = words.tokens.reverse ++ c.spelled := by
  rw [Source.path, run_bind] at h
  obtain ⟨isGlobal, start, hstart, hsegments⟩ := andThen_eq_some h
  rw [run_bind] at hsegments
  obtain ⟨first, after, hfirst, hmoreSegments⟩ := andThen_eq_some hsegments
  rw [run_bind] at hmoreSegments
  obtain ⟨others, last, hothers, hresult⟩ := andThen_eq_some hmoreSegments
  obtain ⟨rfl, rfl⟩ := Prod.mk.inj (Option.some.inj hresult)
  obtain ⟨hfirstPlain, hothersPlain⟩ := List.forall_mem_cons.1 (List.all_eq_true.1 hplain)
  obtain ⟨word, hword, rfl, hrest, hspelled⟩ := segment_eq_some hfirst hfirstPlain
  obtain ⟨words, hwords, rfl, hmore⟩ := moreSegments_eq_some hothers hothersPlain
  obtain ⟨hspelledStart, hsubset⟩ : start.spelled =
      (if isGlobal then signs "::" else []).reverse ++ c.spelled ∧ start.rest ⊆ c.rest := by
    rw [optionalSign_eq, run_optional, run_sign] at hstart
    split at hstart
    · obtain ⟨rfl, rfl⟩ := Prod.mk.inj (Option.some.inj hstart)
      exact ⟨rfl, List.drop_subset _ _⟩
    · obtain ⟨rfl, rfl⟩ := Prod.mk.inj (Option.some.inj hstart)
      exact ⟨rfl, List.Subset.refl _⟩
  rw [hrest] at hsubset
  refine ⟨⟨isGlobal, word, words⟩, List.forall_mem_cons.2
    ⟨⟨hword, hsubset List.mem_cons_self⟩, fun other hother => ?_⟩, rfl, ?_⟩
  · exact ⟨(hwords other hother).1, hsubset (List.mem_cons_of_mem _ (hwords other hother).2)⟩
  · simp [hmore, hspelled, hspelledStart, PathPrefix.tokens]

/-- What is read as a path without arguments goes by the words that are its segments, which are
words of the text. -/
theorem exists_words_of_readPath? {text : String} {path : SourcePath} {tokens : List Token}
    (h : readPath? text = some (path, tokens)) (hplain : path.isPlain = true) :
    ∃ source, tokenize? text.toList = some source ∧ ∃ words : PathPrefix,
      (∀ word ∈ words.first :: words.more, IsSegment word ∧ .word word ∈ source) ∧
        path = ⟨words.isGlobal, words.segments⟩ ∧ tokens = words.tokens := by
  unfold readPath? at h
  obtain ⟨source, hsource, hparsed⟩ := Option.bind_eq_some_iff.1 h
  unfold parseAll? at hparsed
  split at hparsed
  · next result spelled hasVerbatim hrun =>
      obtain rfl := Option.some.inj hparsed
      simp only [run_spelledBy] at hrun
      obtain ⟨read, after, hread, hresult⟩ := andThen_eq_some hrun
      simp only [Option.some.injEq, Prod.mk.injEq] at hresult
      obtain ⟨⟨rfl, rfl⟩, -⟩ := hresult
      obtain ⟨words, hwords, hpath, hspelled⟩ := path_eq_some hread hplain
      exact ⟨source, hsource, words, hwords, hpath, by simp [hspelled]⟩
  · exact absurd hparsed (by simp)

theorem exists_prefix_of_readPath? {text : String} {path : SourcePath} {tokens : List Token}
    (h : readPath? text = some (path, tokens)) (hplain : path.isPlain = true) :
    ∃ words : PathPrefix, (∀ word ∈ words.first :: words.more, IsSegment word) ∧
      path = ⟨words.isGlobal, words.segments⟩ ∧ tokens = words.tokens := by
  obtain ⟨_, -, words, hwords, hpath, htokens⟩ := exists_words_of_readPath? h hplain
  exact ⟨words, fun word hword => (hwords word hword).1, hpath, htokens⟩

end StructMatch.Source
