import StructMatch.Proofs.Source.LeafReading

/-!
# Reading laid out code

Laying out code may add or leave out the comma that closes a list, and it may put curly brackets
around what a closure returns; apart from this the tokens stay, `LaidOutFrom`.  Code is read token
by token, `Scans`: each lemma says how a token that stands before code is read, whatever that code
is read as.
-/

namespace StructMatch.Source

open Text

/-! ## Blanks -/

theorem length_afterBlockComment? {depth : Nat} {cs rest : List Char}
    (h : afterBlockComment? depth cs = some rest) : rest.length < cs.length := by
  fun_induction afterBlockComment? depth cs with
  | case1 => exact absurd h (by simp)
  | case2 depth cs ih =>
      simp only [List.length_cons]
      have := ih h
      omega
  | case3 cs =>
      obtain rfl := Option.some.inj h
      simp only [List.length_cons]
      omega
  | case4 depth cs _ ih =>
      simp only [List.length_cons]
      have := ih h
      omega
  | case5 depth c cs _ _ ih => exact Nat.lt_succ_of_lt (ih h)

theorem length_restOfLine (cs : List Char) : (restOfLine cs).2.length ≤ cs.length := by
  fun_induction restOfLine cs with
  | case1 => simp
  | case2 => simp
  | case3 => simp
  | case4 c cs _ _ line rest heq ih =>
      simp only [heq] at ih
      simp only [List.length_cons]
      omega

theorem length_afterComment? {cs rest : List Char} (h : afterComment? cs = some rest) :
    rest.length < cs.length := by
  cases cs with
  | nil =>
      have hnone : afterComment? [] = none := by decide
      exact absurd (h.symm.trans hnone) (by simp)
  | cons c cs =>
      unfold afterComment? at h
      split at h
      · next hslashes =>
          split at h
          · exact absurd h (by simp)
          · have hne : c ≠ '\n' ∧ c ≠ '\r' := by
              constructor <;>
              · rintro rfl
                simp [begins, afterStart?] at hslashes
            obtain rfl := Option.some.inj h
            rw [restOfLine, if_neg hne.1, if_neg (by simp [hne.2])]
            exact Nat.lt_succ_of_le (length_restOfLine cs)
      · split at h
        · obtain rfl := Option.some.inj h
          simp only [List.length_drop, List.length_cons]
          omega
        · split at h
          · split at h
            · exact absurd h (by simp)
            · exact length_afterBlockComment? h
          · exact absurd h (by simp)

/-- Any number of steps that is enough skips the same blanks. -/
theorem skipBlanks_eq {n m : Nat} {cs : List Char} (hn : cs.length ≤ n) (hm : cs.length ≤ m) :
    skipBlanks n cs = skipBlanks m cs := by
  induction n generalizing m cs with
  | zero =>
      obtain rfl : cs = [] := List.eq_nil_of_length_eq_zero (by omega)
      cases m with
      | zero => rfl
      | succ m => rfl
  | succ n ih =>
      cases m with
      | zero =>
          obtain rfl : cs = [] := List.eq_nil_of_length_eq_zero (by omega)
          rfl
      | succ m =>
          unfold skipBlanks
          split
          · next rest hcomment =>
              have := length_afterComment? hcomment
              exact ih (by omega) (by omega)
          · split
            · rfl
            · next c rest _ =>
                rw [List.length_cons] at hn hm
                rw [@ih m rest (by omega) (by omega)]

/-! ## Tokens of laid out code -/

/-- Whether the first tokens can be those of code that was laid out from the other ones.  A sign may
be joined to the next one where it need not, a comma may be added or left out at the end of a list,
and the reference to a field that a closure returns may stand in curly brackets. -/
inductive LaidOutFrom : List Token → List Token → Prop
  | nil : LaidOutFrom [] []
  | word (text : String) {actual expected : List Token} (h : LaidOutFrom actual expected) :
      LaidOutFrom (.word text :: actual) (.word text :: expected)
  | literal (kind : LiteralKind) (text : String) {actual expected : List Token}
      (h : LaidOutFrom actual expected) :
      LaidOutFrom (.literal kind text :: actual) (.literal kind text :: expected)
  | sign (c : Char) {joined joined' : Bool} (hjoined : joined' = true → joined = true)
      {actual expected : List Token} (h : LaidOutFrom actual expected) :
      LaidOutFrom (.sign c joined :: actual) (.sign c joined' :: expected)
  | group (delimiter : Delimiter) {inner inner' actual expected : List Token}
      (hinner : LaidOutFrom inner inner') (h : LaidOutFrom actual expected) :
      LaidOutFrom (.group delimiter inner :: actual) (.group delimiter inner' :: expected)
  | commaAdded (joined : Bool) : LaidOutFrom [.sign ',' joined] []
  | commaLeftOut (joined : Bool) : LaidOutFrom [] [.sign ',' joined]
  | commaBeforeAngle (joined joined' : Bool) {actual expected : List Token}
      (h : LaidOutFrom (.sign '>' joined' :: actual) expected) :
      LaidOutFrom (.sign ',' joined :: .sign '>' joined' :: actual) expected
  | braces (joined joined' : Bool) (value field : String) {inner actual expected : List Token}
      (hinner : LaidOutFrom inner [.sign '&' false, .word value, .sign '.' false, .word field])
      (h : LaidOutFrom actual expected) :
      LaidOutFrom (.sign '|' joined :: .group .curly inner :: actual)
        (.sign '|' joined' :: .sign '&' false :: .word value :: .sign '.' false :: .word field ::
          expected)

/-! ## Code up to a bracket or to its end -/

/-- Whether code is read, up to a rest of it, as tokens of some kind.  It begins with no slash, so
that no comment begins where other code stands before it. -/
structure Scans (cs : List Char) (kind : List Token → Prop) (rest : List Char) : Prop where
  noSlash : cs.head? ≠ some '/'
  shorter : rest.length ≤ cs.length
  reads : ∃ actual, kind actual ∧ ∀ n, cs.length < n → readTokens? n cs = some (actual, rest)

namespace Scans

variable {c : Char} {cs rest : List Char} {kind kind' : List Token → Prop}

theorem mono (h : Scans cs kind rest) (hkind : ∀ actual, kind actual → kind' actual) :
    Scans cs kind' rest := by
  obtain ⟨actual, hactual, hreads⟩ := h.reads
  exact ⟨h.noSlash, h.shorter, actual, hkind actual hactual, hreads⟩

theorem tokenize? (h : Scans cs kind []) (hmark : ∀ c ∈ cs.head?, c.toNat ≠ 0xFEFF) :
    ∃ actual, Source.tokenize? cs = some actual ∧ kind actual := by
  obtain ⟨actual, hactual, hreads⟩ := h.reads
  have hdrop : dropByteOrderMark cs = cs := by
    cases cs with
    | nil => rfl
    | cons c cs => exact if_neg (hmark c rfl)
  refine ⟨actual, ?_, hactual⟩
  rw [Source.tokenize?, hdrop]
  simp only [hreads _ (Nat.lt_succ_self _)]

theorem nil : Scans [] (· = []) [] :=
  ⟨by simp, Nat.le_refl _, [], rfl, fun n hn => by
    obtain ⟨m, rfl⟩ : ∃ m, n = m + 1 := ⟨n - 1, by omega⟩
    rfl⟩

/-! ### Blanks and comments -/

theorem documentation?_of_ne_slash (hc : c ≠ '/') : documentation? (c :: cs) = none := by
  simp [documentation?, begins, afterStart?, hc.symm]

theorem afterComment?_of_ne_slash (hc : c ≠ '/') : afterComment? (c :: cs) = none := by
  simp [afterComment?, begins, afterStart?, hc.symm]

theorem documentationTokens?_of_ne_slash (hc : c ≠ '/') :
    documentationTokens? (c :: cs) = none := by
  simp [documentationTokens?, documentation?_of_ne_slash hc]

/-- A blank before code is skipped. -/
theorem blank (hc : isSeparator c = true) (h : Scans cs kind rest) :
    Scans (c :: cs) kind rest := by
  have hslash : c ≠ '/' := by
    rintro rfl
    exact absurd hc (by decide)
  obtain ⟨actual, hactual, hreads⟩ := h.reads
  refine ⟨by simpa using hslash, Nat.le_succ_of_le h.shorter, actual, hactual, fun n hn => ?_⟩
  rw [List.length_cons] at hn
  obtain ⟨m, rfl⟩ : ∃ m, n = m + 1 := ⟨n - 1, by omega⟩
  have hskip : skipBlanks (m + 1) (c :: cs) = skipBlanks (m + 1) cs := by
    rw [skipBlanks, afterComment?_of_ne_slash hslash]
    simp only [hc, if_true]
    exact skipBlanks_eq (by omega) (by omega)
  rw [← hreads (m + 1) (by omega), readTokens?, readTokens?, hskip]

theorem skipBlanks_visible (hc : isSeparator c = false) (hslash : c ≠ '/') (n : Nat) :
    skipBlanks n (c :: cs) = c :: cs := by
  cases n with
  | zero => rfl
  | succ n => simp [skipBlanks, afterComment?_of_ne_slash hslash, hc]

theorem afterStart?_unreadableMark (h : c = '(' → cs.head? ≠ some '/') :
    afterStart? unreadableMark.toList (c :: cs) = none := by
  by_cases hopen : '(' = c
  · subst hopen
    cases cs with
    | nil => simp [unreadableMark, afterStart?]
    | cons d cs =>
        have hd : '/' ≠ d := fun hd => h rfl (by rw [hd]; rfl)
        simp [unreadableMark, afterStart?, hd]
  · simp [unreadableMark, afterStart?, hopen]

theorem restOfLine_append {text : List Char} (htext : ∀ c ∈ text, c ≠ '\n' ∧ c ≠ '\r') :
    restOfLine (text ++ '\n' :: cs) = (text, '\n' :: cs) := by
  induction text with
  | nil => rfl
  | cons c text ih =>
      rw [List.forall_mem_cons] at htext
      rw [List.cons_append, restOfLine, if_neg htext.1.1, if_neg (by simp [htext.1.2]),
        ih htext.2]

theorem returnsAreClosed_of_forall {text : List Char} (htext : ∀ c ∈ text, c ≠ '\n' ∧ c ≠ '\r') :
    returnsAreClosed text = true := by
  induction text with
  | nil => rfl
  | cons c text ih =>
      rw [List.forall_mem_cons] at htext
      simp [returnsAreClosed, htext.1.2, ih htext.2]

/-- A comment that documents something is read as an attribute.  A blank has to stand before it, so
that it does not begin inside of other code. -/
theorem comment {text : List Char} (hc : isSeparator c = true)
    (htext : ∀ c ∈ text, c ≠ '\n' ∧ c ≠ '\r') (hslash : text.head? ≠ some '/')
    (h : Scans cs kind rest)
    (hkind : ∀ actual, kind actual → kind' (.sign '#' false :: .group .square
      [.word "doc", .sign '=' false, textLiteral (String.ofList text)] :: actual)) :
    Scans (c :: '/' :: '/' :: '/' :: (text ++ '\n' :: cs)) kind' rest := by
  have hblank : Scans ('\n' :: cs) kind rest := h.blank (by decide)
  obtain ⟨actual, hactual, hreads⟩ := hblank.reads
  have hfourth : begins "////" ('/' :: '/' :: '/' :: (text ++ '\n' :: cs)) = false := by
    cases text with
    | nil => simp [begins, afterStart?]
    | cons c text =>
        have hc : '/' ≠ c := fun hc => hslash (by rw [hc]; rfl)
        simp [begins, afterStart?, hc]
  have hthird : begins "///" ('/' :: '/' :: '/' :: (text ++ '\n' :: cs)) = true := by
    simp [begins, afterStart?]
  have hdocumentation : documentationTokens? ('/' :: '/' :: '/' :: (text ++ '\n' :: cs)) =
      some ([.sign '#' false, .group .square
        [.word "doc", .sign '=' false, textLiteral (String.ofList text)]], '\n' :: cs) := by
    have hread : documentation? ('/' :: '/' :: '/' :: (text ++ '\n' :: cs)) =
        some (false, text, '\n' :: cs) := by
      simp only [documentation?, hthird, hfourth]
      simp [begins, afterStart?, restOfLine_append htext]
    simp [documentationTokens?, hread, returnsAreClosed_of_forall htext]
  have hcomment : afterComment? ('/' :: '/' :: '/' :: (text ++ '\n' :: cs)) = none := by
    simp only [afterComment?, hthird, hfourth]
    simp [begins, afterStart?]
  have hfirst : c ≠ '/' := by
    rintro rfl
    exact absurd hc (by decide)
  have hskip (n : Nat) : skipBlanks (n + 1) (c :: '/' :: '/' :: '/' :: (text ++ '\n' :: cs)) =
      '/' :: '/' :: '/' :: (text ++ '\n' :: cs) := by
    rw [skipBlanks, afterComment?_of_ne_slash hfirst]
    cases n with
    | zero => simp [skipBlanks, hc]
    | succ n =>
        have hslash : isSeparator '/' = false := by decide
        simp [skipBlanks, hcomment, hslash, hc]
  have hshorter := hblank.shorter
  refine ⟨by simpa using hfirst, ?_, _, hkind actual hactual, fun n hn => ?_⟩
  · simp only [List.length_cons, List.length_append] at hshorter ⊢
    omega
  · simp only [List.length_cons, List.length_append] at hn
    obtain ⟨m, rfl⟩ : ∃ m, n = m + 1 := ⟨n - 1, by omega⟩
    rw [readTokens?, hskip, hdocumentation]
    simp [hreads m (by rw [List.length_cons]; omega)]

/-! ### Brackets -/

/-- The character that begins a group. -/
def opening : Delimiter → Char
  | .round => '('
  | .square => '['
  | .curly => '\x7b'

/-- The character that ends a group. -/
def closing : Delimiter → Char
  | .round => ')'
  | .square => ']'
  | .curly => '\x7d'

theorem closing?_closing (delimiter : Delimiter) :
    closing? (closing delimiter) = some delimiter := by
  cases delimiter <;> rfl

theorem close (delimiter : Delimiter) :
    Scans (closing delimiter :: cs) (· = []) (closing delimiter :: cs) := by
  refine ⟨by cases delimiter <;> simp [closing], Nat.le_refl _, [], rfl, fun n hn => ?_⟩
  obtain ⟨m, rfl⟩ : ∃ m, n = m + 1 := ⟨n - 1, by omega⟩
  have hunreadable : afterStart? unreadableMark.toList (closing delimiter :: cs) = none :=
    afterStart?_unreadableMark (by cases delimiter <;> simp [closing])
  have hvisible (n : Nat) : skipBlanks n (closing delimiter :: cs) = closing delimiter :: cs :=
    skipBlanks_visible (by cases delimiter <;> decide) (by cases delimiter <;> decide) n
  rw [readTokens?, hvisible, documentationTokens?_of_ne_slash (by cases delimiter <;> decide),
    hunreadable]
  cases delimiter <;> rfl

/-- A group is read up to its closing bracket. -/
theorem group {delimiter : Delimiter} {more : List Char} {innerKind : List Token → Prop}
    (hinner : Scans cs innerKind (closing delimiter :: more)) (h : Scans more kind rest)
    (hkind : ∀ inner actual, innerKind inner → kind actual →
      kind' (.group delimiter inner :: actual)) :
    Scans (opening delimiter :: cs) kind' rest := by
  obtain ⟨actualInner, hactualInner, hreadsInner⟩ := hinner.reads
  obtain ⟨actual, hactual, hreads⟩ := h.reads
  have hlength := hinner.shorter
  have hshorter := h.shorter
  rw [List.length_cons] at hlength
  refine ⟨by cases delimiter <;> simp [opening], by rw [List.length_cons]; omega, _,
    hkind _ _ hactualInner hactual, fun n hn => ?_⟩
  rw [List.length_cons] at hn
  obtain ⟨m, rfl⟩ : ∃ m, n = m + 1 := ⟨n - 1, by omega⟩
  have hopen : opening? (opening delimiter) = some delimiter := by cases delimiter <;> rfl
  have hvisible (n : Nat) : skipBlanks n (opening delimiter :: cs) = opening delimiter :: cs :=
    skipBlanks_visible (by cases delimiter <;> decide) (by cases delimiter <;> decide) n
  rw [readTokens?, hvisible, documentationTokens?_of_ne_slash (by cases delimiter <;> decide),
    afterStart?_unreadableMark fun _ => hinner.noSlash]
  simp [hopen, closing?_closing, hreadsInner m (by omega), hreads m (by omega)]

/-! ### Leaves -/

/-- A token without brackets is read by itself. -/
theorem leaf {token : Token} {more : List Char} (hc : isSeparator c = false)
    (hslash : c ≠ '/') (hopen : opening? c = none) (hclose : closing? c = none)
    (hleaf : readLeaf? (c :: cs) = some (token, more)) (hmore : more.length ≤ cs.length)
    (h : Scans more kind rest) (hkind : ∀ actual, kind actual → kind' (token :: actual)) :
    Scans (c :: cs) kind' rest := by
  obtain ⟨actual, hactual, hreads⟩ := h.reads
  have hshorter := h.shorter
  refine ⟨by simpa using hslash, by rw [List.length_cons]; omega, _, hkind actual hactual,
    fun n hn => ?_⟩
  rw [List.length_cons] at hn
  obtain ⟨m, rfl⟩ : ∃ m, n = m + 1 := ⟨n - 1, by omega⟩
  have hround : c ≠ '(' := by
    rintro rfl
    exact absurd hopen (by decide)
  have hvisible (n : Nat) : skipBlanks n (c :: cs) = c :: cs := skipBlanks_visible hc hslash n
  rw [readTokens?, hvisible, documentationTokens?_of_ne_slash hslash,
    afterStart?_unreadableMark (absurd · hround)]
  simp [hopen, hclose, hleaf, hreads m (by omega)]

/-- Stretches of code points between the letters, in which all blanks beyond ASCII lie. -/
def letterGaps : List (Nat × Nat) :=
  [(0x85, 0xA0), (0x1680, 0x1680), (0x2000, 0x205F), (0x3000, 0x3000)]

theorem isIdentStart_of_mem_letterGaps {gap : Nat × Nat} (hgap : gap ∈ letterGaps)
    (hfirst : gap.1 ≤ c.toNat) (hlast : c.toNat ≤ gap.2) : isIdentStart c = false := by
  have hascii : ∀ gap ∈ letterGaps, 128 ≤ gap.1 := by decide
  have havoids : ∀ gap ∈ letterGaps, Identifier.startRuns.all (·.avoids gap.1 gap.2) = true := by
    decide +kernel
  rw [isIdentStart, if_neg (by have := hascii gap hgap; omega), inRuns, List.any_eq_false]
  intro run hrun
  have hrun := List.all_eq_true.1 (havoids gap hgap) run hrun
  rw [CodeRun.covers_eq_false_of_avoids hrun hfirst hlast]
  decide

theorem isIdentStart_of_isSeparator_ascii :
    ∀ c : Char, c.toNat < 128 → isSeparator c = true → isIdentStart c = false :=
  forall_ascii (by decide)

theorem isIdentStart_of_isSeparator (h : isSeparator c = true) : isIdentStart c = false := by
  by_cases hascii : c.toNat < 128
  · exact isIdentStart_of_isSeparator_ascii c hascii h
  · obtain ⟨gap, hgap, hfirst, hlast⟩ :
        ∃ gap ∈ letterGaps, gap.1 ≤ c.toNat ∧ c.toNat ≤ gap.2 := by
      simp only [isSeparator, isBlank, Bool.or_eq_true, Bool.and_eq_true, decide_eq_true_eq,
        beq_iff_eq] at h
      simp only [letterGaps, List.exists_mem_cons_iff, List.not_mem_nil, false_and, exists_false,
        or_false]
      omega
    exact isIdentStart_of_mem_letterGaps hgap hfirst hlast

/-- The first letter of a word belongs to nothing else. -/
theorem plain_of_isIdentStart (h : isIdentStart c = true) : isSeparator c = false ∧ c ≠ '/' ∧
    opening? c = none ∧ closing? c = none := by
  refine ⟨Bool.eq_false_iff.2 fun hblank => ?_, ne_of_isIdentStart h (by decide), ?_, ?_⟩
  · exact absurd (h.symm.trans (isIdentStart_of_isSeparator hblank)) (by decide)
  · unfold opening?
    split <;> first | exact absurd h (by decide) | rfl
  · unfold closing?
    split <;> first | exact absurd h (by decide) | rfl

/-- A word is read if it ends. -/
theorem word {text : String} (hword : isIdentifier text.toList = true) (hclear : Clear cs)
    (h : Scans cs kind rest) (hkind : ∀ actual, kind actual → kind' (.word text :: actual)) :
    Scans (text.toList ++ cs) kind' rest := by
  obtain ⟨-, hleaf⟩ := readWord?_identifier hword hclear
  obtain ⟨c, ds, hlist⟩ : ∃ c ds, text.toList = c :: ds :=
    List.exists_cons_of_ne_nil (by rintro h; simp [h, isIdentifier] at hword)
  rw [hlist, isIdentifier, Bool.and_eq_true] at hword
  rw [hlist, List.cons_append] at hleaf ⊢
  obtain ⟨hblank, hslash, hopen, hclose⟩ := plain_of_isIdentStart hword.1
  exact h.leaf hblank hslash hopen hclose hleaf (by rw [List.length_append]; omega) hkind

/-- A marked word is read if it ends. -/
theorem rawWord {name : String} (hname : isRawIdentifier name = true) (hclear : Clear cs)
    (h : Scans cs kind rest)
    (hkind : ∀ actual, kind actual → kind' (.word ("r#" ++ name) :: actual)) :
    Scans (("r#" ++ name).toList ++ cs) kind' rest := by
  have hleaf := readLeaf?_rawWord hname hclear
  have hchars : ("r#" ++ name).toList ++ cs = 'r' :: '#' :: (name.toList ++ cs) := by simp
  rw [hchars] at hleaf ⊢
  exact h.leaf (by decide) (by decide) rfl rfl hleaf
    (by simp only [List.length_cons, List.length_append]; omega) hkind

/-- A sign is read by itself. -/
theorem sign (hc : c ∈ signMarks) (h : Scans cs kind rest)
    (hkind : ∀ actual, kind actual → kind' (.sign c (readSign? cs).isSome :: actual)) :
    Scans (c :: cs) kind' rest := by
  have hmarks : ∀ d ∈ signMarks, isSeparator d = false ∧ d ≠ '/' ∧ opening? d = none ∧
      closing? d = none := List.all_iff_forall_prop.1 (by decide)
  obtain ⟨hblank, hslash, hopen, hclose⟩ := hmarks c hc
  exact h.leaf hblank hslash hopen hclose (readLeaf?_sign hc) (Nat.le_refl _) hkind

/-- The quote of a lifetime is read if its word ends. -/
theorem quote {name : String} (hname : isIdentifier name.toList = true) (hclear : Clear cs)
    (h : Scans (name.toList ++ cs) kind rest)
    (hkind : ∀ actual, kind actual → kind' (.sign '\'' true :: actual)) :
    Scans ('\'' :: (name.toList ++ cs)) kind' rest :=
  h.leaf (by decide) (by decide) rfl rfl (readLeaf?_quote hname hclear) (Nat.le_refl _) hkind

/-- The literal of a text is read if it ends. -/
theorem literal (text : String) (hclear : Clear cs) (h : Scans cs kind rest)
    (hkind : ∀ actual, kind actual → kind' (textLiteral text :: actual)) :
    Scans ((Text.literal text).toList ++ cs) kind' rest := by
  have hleaf := readLeaf?_literal text fun c hc => Bool.eq_false_iff.2 fun hstart =>
    absurd ((isIdentContinue_of_isIdentStart hstart).symm.trans (hclear.ends c hc)) (by decide)
  have hchars : (Text.literal text).toList ++ cs =
      '"' :: (literalBody text.toList ++ '"' :: cs) := by
    simp [Text.literal]
  rw [hchars] at hleaf ⊢
  exact h.leaf (by decide) (by decide) rfl rfl hleaf
    (by simp only [List.length_cons, List.length_append]; omega) hkind

end Scans

end StructMatch.Source
