import Mathlib.Data.Bool.AllAny
import StructMatch.Proofs.Text.Identifier
import StructMatch.Proofs.Text.Literal
import StructMatch.Source.Lexer

/-!
# Reading one token

What is read first in a text does not depend on the text after it, as long as a word or a literal
ends where it seems to, `Clear`: a sign is read as it stands, `readLeaf?_sign`, an identifier as a
word, `readWord?_identifier`, a marked one with its mark, `readLeaf?_rawWord`, and the literal of a
text as a whole, `readLeaf?_literal`.
-/

namespace StructMatch.Source

open Text

variable {c : Char} {cs ds rest : List Char}

/-! ## Where a word ends -/

/-- Whether a text begins with nothing that would make a literal of a word before it. -/
def Bare (cs : List Char) : Prop := ∀ c ∈ cs.head?, c ≠ '"' ∧ c ≠ '\'' ∧ c ≠ '#'

/-- Whether a word or a literal before the text ends where the text begins. -/
structure Clear (cs : List Char) : Prop where
  ends : ∀ c ∈ cs.head?, isIdentContinue c = false
  bare : Bare cs

theorem clear_nil : Clear [] := ⟨by simp, by simp [Bare]⟩

theorem clear_cons (h : isIdentContinue c = false) (hbare : c ≠ '"' ∧ c ≠ '\'' ∧ c ≠ '#') :
    Clear (c :: cs) := ⟨by simp [h], by simpa [Bare] using hbare⟩

theorem bare_cons_of_isIdentContinue (h : isIdentContinue c = true) : Bare (c :: cs) := by
  have hne (d : Char) (hd : isIdentContinue d = false) : c ≠ d := by
    rintro rfl
    exact absurd (h.symm.trans hd) (by decide)
  simpa [Bare] using ⟨hne '"' (by decide), hne '\'' (by decide), hne '#' (by decide)⟩

theorem Clear.bare_append (hrest : Clear rest) (hds : ∀ d ∈ ds, isIdentContinue d = true) :
    Bare (ds ++ rest) := by
  cases ds with
  | nil => exact hrest.bare
  | cons d ds => exact bare_cons_of_isIdentContinue (hds d List.mem_cons_self)

/-- After the first letter of a word neither a literal begins nor one with a second mark. -/
theorem Clear.bare_of_append_eq_cons (hrest : Clear rest) (hds : ∀ d ∈ ds, isIdentContinue d = true)
    (hc : isIdentContinue c = true) (h : ds ++ rest = c :: cs) : Bare cs := by
  cases ds with
  | nil =>
      rw [List.nil_append] at h
      exact absurd (hc.symm.trans (hrest.ends c (by simp [h]))) (by decide)
  | cons d ds =>
      obtain ⟨-, rfl⟩ := List.cons_eq_cons.1 h
      exact hrest.bare_append fun e he => hds e (List.mem_cons_of_mem _ he)

/-! ## What begins no literal -/

theorem afterRaw?_of_bare (quoted : Quoted) (h : Bare cs) : afterRaw? quoted cs = none := by
  cases cs with
  | nil => simp [afterRaw?]
  | cons c cs =>
      obtain ⟨hquote, -, hhash⟩ := h c rfl
      simp only [afterRaw?, List.dropWhile_cons, hhash, decide_false, Bool.false_eq_true, if_false]
      split
      · next heq => exact absurd (List.cons_eq_cons.1 heq).1 hquote
      · rfl

theorem afterInteger?_of_not_isDigit (h : c.isDigit = false) : afterInteger? (c :: cs) = none := by
  have hzero : c ≠ '0' := by
    rintro rfl
    exact absurd h (by decide)
  have hbase : baseAndDigits (c :: cs) = (10, c :: cs) := by
    unfold baseAndDigits
    split <;> simp_all
  have hhex : ¬ (isHexDigit c = true ∧ hexValue c < 10) := by
    simp [hexValue, h]
  simp only [afterInteger?, hbase, afterDigits?, h, Bool.and_eq_true, decide_eq_true_eq, hhex]
  simp

theorem afterDecimal?_of_not_isDigit (h : c.isDigit = false) : afterDecimal? (c :: cs) = none := by
  simp [afterDecimal?, h]

/-- Two letters after one another are not one between quotes. -/
theorem afterQuotedChar?_of_bare (hc : c ≠ '\\') (h : Bare cs) :
    afterQuotedChar? .text (c :: cs) = none := by
  unfold afterQuotedChar?
  dsimp only
  split
  · next after heq =>
      split at heq
      · exact absurd heq (by simp)
      · next hcons => exact absurd (List.cons_eq_cons.1 hcons).1 hc
      · next hcons =>
          obtain ⟨rfl, rfl⟩ := List.cons_eq_cons.1 hcons
          rw [Quoted.admits, if_pos rfl, Option.some.injEq] at heq
          exact absurd rfl (h '\'' (by rw [heq]; rfl)).2.1
  · rfl

/-- What keeps a text from being part of a literal that the letter before it would mark. -/
structure Follows (c : Char) (cs : List Char) : Prop where
  raw : c = 'r' → Bare cs ∨ ∃ d ds, cs = '#' :: d :: ds ∧ isIdentStart d = true
  marked : c = 'b' ∨ c = 'c' → Bare cs ∧ ∀ ds, cs = 'r' :: ds → Bare ds

theorem ne_of_isIdentStart {d : Char} (h : isIdentStart c = true) (hd : isIdentStart d = false) :
    c ≠ d := by
  rintro rfl
  exact absurd (h.symm.trans hd) (by decide)

theorem Follows.afterRaw? (h : Follows 'r' cs) (quoted : Quoted) : afterRaw? quoted cs = none := by
  rcases h.raw rfl with hbare | ⟨d, ds, rfl, hd⟩
  · exact afterRaw?_of_bare quoted hbare
  · have hhash : d ≠ '#' := ne_of_isIdentStart hd (by decide)
    have hquote : d ≠ '"' := ne_of_isIdentStart hd (by decide)
    simp [Source.afterRaw?, hhash, hquote]

/-- What neither is a digit nor marks a literal begins none. -/
theorem readLiteral?_eq_none (hdigit : c.isDigit = false) (hdouble : c ≠ '"')
    (hsingle : c = '\'' → afterQuotedChar? .text cs = none) (h : Follows c cs) :
    readLiteral? (c :: cs) = none := by
  have hfirst {mark : Char} (h : mark ≠ c) (reader : Reader) :
      (afterStart? [mark] (c :: cs)).bind reader = none := by
    simp [afterStart?, h]
  have hr (quoted : Quoted) : (afterStart? ['r'] (c :: cs)).bind (afterRaw? quoted) = none := by
    by_cases hc : 'r' = c
    · subst hc
      simp [afterStart?, h.afterRaw?]
    · exact hfirst hc _
  have hquote : (afterStart? ['\''] (c :: cs)).bind (afterQuotedChar? .text) = none := by
    by_cases hc : '\'' = c
    · simp [afterStart?, hsingle hc.symm]
    · exact hfirst hc _
  have hsecond {mark second : Char} (hmem : mark = 'b' ∨ mark = 'c') (reader : Reader)
      (hreader : second = '"' ∨ second = '\'' ∨ second = 'r' ∧ ∀ ds, Bare ds → reader ds = none) :
      (afterStart? [mark, second] (c :: cs)).bind reader = none := by
    by_cases hc : mark = c
    · subst hc
      obtain ⟨hbare, hraw⟩ := h.marked hmem
      cases cs with
      | nil => simp [afterStart?]
      | cons d ds =>
          obtain ⟨hd, hd', -⟩ := hbare d rfl
          rcases hreader with rfl | rfl | ⟨rfl, hreader⟩
          · simp [afterStart?, hd.symm]
          · simp [afterStart?, hd'.symm]
          · by_cases hsame : 'r' = d
            · simp [afterStart?, hreader ds (hraw ds (by rw [hsame]))]
            · simp [afterStart?, hsame]
    · simp [afterStart?, hc]
  have hbare (quoted : Quoted) : ∀ ds, Bare ds → afterRaw? quoted ds = none :=
    fun _ => afterRaw?_of_bare quoted
  have hall : ∀ entry ∈ literalReaders, entry.2 (c :: cs) = none := by
    simp only [literalReaders, List.forall_mem_cons]
    exact ⟨hfirst hdouble.symm _, hr .text, hsecond (.inl rfl) _ (.inl rfl),
      hsecond (.inl rfl) _ (.inr (.inr ⟨rfl, hbare .bytes⟩)), hsecond (.inr rfl) _ (.inl rfl),
      hsecond (.inr rfl) _ (.inr (.inr ⟨rfl, hbare .nullTerminated⟩)),
      hsecond (.inl rfl) _ (.inr (.inl rfl)), hquote,
      afterDecimal?_of_not_isDigit hdigit, afterInteger?_of_not_isDigit hdigit, by simp⟩
  exact List.findSome?_eq_none_iff.2 fun entry hentry =>
    Option.map_eq_none_iff.2 (hall entry hentry)


/-! ## Signs -/

/-- The signs that begin a token by themselves. -/
def signMarks : List Char := "~!@#$%^&*-=+|;:,<.>?".toList

theorem readLiteral?_sign (h : c ∈ signMarks) : readLiteral? (c :: cs) = none := by
  have hmarks : ∀ d ∈ signMarks, d.isDigit = false ∧ d ∉ ['"', '\'', 'r', 'b', 'c'] :=
    List.all_iff_forall_prop.1 (by decide)
  obtain ⟨hdigit, hne⟩ := hmarks c h
  simp only [List.mem_cons, List.not_mem_nil, or_false, not_or] at hne
  obtain ⟨hdouble, hsingle, hr, hb, hc⟩ := hne
  exact readLiteral?_eq_none hdigit hdouble (absurd · hsingle) ⟨(absurd · hr), by simp [hb, hc]⟩

theorem readSign?_sign (h : c ∈ signMarks) : readSign? (c :: cs) = some (c, cs) := by
  have hmarks : ∀ d ∈ signMarks, d ≠ '/' ∧ "~!@#$%^&*-=+|;:,<.>/?'".toList.contains d = true :=
    List.all_iff_forall_prop.1 (by decide)
  obtain ⟨hslash, hsign⟩ := hmarks c h
  rw [readSign?, if_neg (by simp [hslash]), if_pos hsign]

/-- A sign is read as it stands, joined to the sign after it if there is one. -/
theorem readLeaf?_sign (h : c ∈ signMarks) :
    readLeaf? (c :: cs) = some (.sign c (readSign? cs).isSome, cs) := by
  have hquote : c ≠ '\'' := by
    rintro rfl
    exact absurd h (by decide)
  simp [readLeaf?, readLiteral?_sign h, readSignToken?, readSign?_sign h, hquote]

/-! ## Words -/

theorem isDigit_of_isIdentStart (h : isIdentStart c = true) : c.isDigit = false := by
  have hascii : ∀ c : Char, c.toNat < 128 → isIdentStart c = true → c.isDigit = false :=
    forall_ascii (by decide)
  by_cases hc : c.toNat < 128
  · exact hascii c hc h
  · rw [Char.isDigit, Bool.and_eq_false_iff, decide_eq_false_iff_not, decide_eq_false_iff_not]
    refine .inr fun hle => hc ?_
    exact Nat.lt_of_le_of_lt (UInt32.le_iff_toNat_le.1 hle) (by decide)

theorem readSign?_of_isIdentStart (h : isIdentStart c = true) : readSign? (c :: cs) = none := by
  have hsigns : ∀ d ∈ "~!@#$%^&*-=+|;:,<.>/?'".toList, isIdentStart d = false :=
    List.all_iff_forall_prop.1 (by decide)
  have hmem : "~!@#$%^&*-=+|;:,<.>/?'".toList.contains c = false := by
    rw [Bool.eq_false_iff, Ne, List.contains_iff_mem]
    exact fun hc => absurd (h.symm.trans (hsigns c hc)) (by decide)
  have hslash : c ≠ '/' := ne_of_isIdentStart h (by decide)
  rw [readSign?, if_neg (by simp [hslash]), if_neg (by rw [hmem]; decide)]

theorem Follows.begins_eq_false (h : Follows c cs) :
    (literalMarks.any fun mark => begins mark (c :: cs)) = false := by
  by_cases hr : c = 'r'
  · subst hr
    rcases h.raw rfl with hbare | ⟨d, ds, rfl, hd⟩
    · cases cs with
      | nil => simp [literalMarks, begins, afterStart?]
      | cons d ds =>
          obtain ⟨hdouble, -, hhash⟩ := hbare d rfl
          simp [literalMarks, begins, afterStart?, hdouble.symm, hhash.symm]
    · have hdouble : '"' ≠ d := (ne_of_isIdentStart hd (by decide)).symm
      have hhash : '#' ≠ d := (ne_of_isIdentStart hd (by decide)).symm
      simp [literalMarks, begins, afterStart?, hdouble, hhash]
  · by_cases hbc : c = 'b' ∨ c = 'c'
    · obtain ⟨hbare, hraw⟩ := h.marked hbc
      have hletters : (c = 'b' ∧ 'c' ≠ c) ∨ (c = 'c' ∧ 'b' ≠ c) := by
        rcases hbc with rfl | rfl
        · exact .inl ⟨rfl, by decide⟩
        · exact .inr ⟨rfl, by decide⟩
      cases cs with
      | nil => simp [literalMarks, begins, afterStart?]
      | cons d ds =>
          obtain ⟨hdouble, hsingle, -⟩ := hbare d rfl
          by_cases hd : d = 'r'
          · subst hd
            cases ds with
            | nil => simp [literalMarks, begins, afterStart?, Ne.symm hr]
            | cons e es =>
                obtain ⟨hdouble', -, hhash⟩ := hraw (e :: es) rfl e rfl
                simp [literalMarks, begins, afterStart?, Ne.symm hr, hdouble'.symm, hhash.symm]
          · simp [literalMarks, begins, afterStart?, Ne.symm hr, hdouble.symm, hsingle.symm,
              Ne.symm hd]
    · rw [not_or] at hbc
      simp [literalMarks, begins, afterStart?, Ne.symm hr, Ne.symm hbc.1, Ne.symm hbc.2]


theorem plainWord?_append (hc : isIdentStart c = true) (hds : ∀ d ∈ ds, isIdentContinue d = true)
    (hrest : Clear rest) : plainWord? (c :: (ds ++ rest)) = some (c :: ds, rest) := by
  have hstop : rest.takeWhile isIdentContinue = [] ∧ rest.dropWhile isIdentContinue = rest := by
    cases rest with
    | nil => exact ⟨rfl, rfl⟩
    | cons d rest => simp [hrest.ends d rfl]
  rw [plainWord?, if_pos hc, List.takeWhile_append_of_pos hds, List.dropWhile_append_of_pos hds,
    hstop.1, hstop.2, List.append_nil]

/-- A word that can be read goes by an identifier, and maybe has a mark. -/
theorem readLeaf?_of_readWord? (hc : isIdentStart c = true) (h : Follows c cs) :
    readLeaf? (c :: cs) = (readWord? (c :: cs)).map fun (text, rest) => (.word text, rest) := by
  have hliteral : readLiteral? (c :: cs) = none :=
    readLiteral?_eq_none (isDigit_of_isIdentStart hc) (ne_of_isIdentStart hc (by decide))
      (absurd · (ne_of_isIdentStart hc (by decide))) h
  have hsign : readSignToken? (c :: cs) = none := by
    rw [readSignToken?, readSign?_of_isIdentStart hc]
    rfl
  rw [readLeaf?, hliteral, hsign, Option.none_or, Option.none_or, if_neg]
  rw [h.begins_eq_false]
  decide

/-- An identifier is read as a word if it ends. -/
theorem readWord?_identifier {word : String} (hword : isIdentifier word.toList = true)
    (hrest : Clear rest) : readWord? (word.toList ++ rest) = some (word, rest) ∧
      readLeaf? (word.toList ++ rest) = some (.word word, rest) := by
  obtain ⟨c, ds, hlist⟩ : ∃ c ds, word.toList = c :: ds :=
    List.exists_cons_of_ne_nil (by rintro h; simp [h, isIdentifier] at hword)
  rw [hlist, isIdentifier, Bool.and_eq_true, List.all_eq_true] at hword
  obtain ⟨hc, hds⟩ := hword
  have hfollows : Follows c (ds ++ rest) :=
    ⟨fun _ => .inl (hrest.bare_append hds), fun _ => ⟨hrest.bare_append hds, fun _ heq =>
      hrest.bare_of_append_eq_cons hds (by decide) heq⟩⟩
  have hread : readWord? (word.toList ++ rest) = some (word, rest) := by
    have hplain : readWord? (c :: (ds ++ rest)) =
        (plainWord? (c :: (ds ++ rest))).map fun found => (String.ofList found.1, found.2) := by
      unfold readWord?
      split
      · next marked heq =>
          obtain ⟨-, htail⟩ := List.cons_eq_cons.1 heq
          exact absurd rfl (hrest.bare_append hds '#' (by rw [htail]; rfl)).2.2
      · rfl
    rw [hlist, List.cons_append, hplain, plainWord?_append hc hds hrest, Option.map_some]
    simp [← hlist]
  refine ⟨hread, ?_⟩
  rw [hlist, List.cons_append] at hread ⊢
  rw [readLeaf?_of_readWord? hc hfollows, hread, Option.map_some]

/-- A raw word is read with its mark if it ends. -/
theorem readLeaf?_rawWord {name : String} (hname : isRawIdentifier name = true)
    (hrest : Clear rest) :
    readLeaf? (("r#" ++ name).toList ++ rest) = some (.word ("r#" ++ name), rest) := by
  rw [isRawIdentifier, Bool.and_eq_true, Bool.not_eq_true'] at hname
  obtain ⟨hword, hpath⟩ := hname
  obtain ⟨c, ds, hlist⟩ : ∃ c ds, name.toList = c :: ds :=
    List.exists_cons_of_ne_nil (by rintro h; simp [h, isIdentifier] at hword)
  rw [hlist, isIdentifier, Bool.and_eq_true, List.all_eq_true] at hword
  obtain ⟨hc, hds⟩ := hword
  have hchars : ("r#" ++ name).toList ++ rest = 'r' :: '#' :: c :: (ds ++ rest) := by
    simp [hlist]
  have hfollows : Follows 'r' ('#' :: c :: (ds ++ rest)) :=
    ⟨fun _ => .inr ⟨c, ds ++ rest, rfl, hc⟩, fun h => absurd h (by decide)⟩
  have hread : readWord? ('r' :: '#' :: c :: (ds ++ rest)) = some ("r#" ++ name, rest) := by
    rw [readWord?, plainWord?_append hc hds hrest]
    have hpath' : name ∉ pathWords := by simpa using hpath
    simp [← hlist, hpath']
  rw [hchars, readLeaf?_of_readWord? (by decide) hfollows, hread, Option.map_some]

/-! ## Lifetimes -/

/-- The quote before a word is the beginning of a lifetime if the word is none of one letter in
quotes. -/
theorem readLeaf?_quote {word : String} (hword : isIdentifier word.toList = true)
    (hrest : Clear rest) :
    readLeaf? ('\'' :: (word.toList ++ rest)) = some (.sign '\'' true, word.toList ++ rest) := by
  obtain ⟨hread, -⟩ := readWord?_identifier hword hrest
  obtain ⟨c, ds, hlist⟩ : ∃ c ds, word.toList = c :: ds :=
    List.exists_cons_of_ne_nil (by rintro h; simp [h, isIdentifier] at hword)
  rw [hlist, isIdentifier, Bool.and_eq_true, List.all_eq_true] at hword
  obtain ⟨hc, hds⟩ := hword
  have hbare := hrest.bare_append hds
  have hslash : c ≠ '\\' := ne_of_isIdentStart hc (by decide)
  have hliteral : readLiteral? ('\'' :: (word.toList ++ rest)) = none := by
    rw [hlist, List.cons_append]
    refine readLiteral?_eq_none (by decide) (by decide) (fun _ => ?_)
      ⟨fun h => absurd h (by decide), fun h => absurd h (by decide)⟩
    exact afterQuotedChar?_of_bare hslash hbare
  have hsign : readSignToken? ('\'' :: (word.toList ++ rest)) =
      some (.sign '\'' true, word.toList ++ rest) := by
    have hquote : rest.head? ≠ some '\'' := fun h => (hrest.bare _ h).2.1 rfl
    have hhash : rest.head? ≠ some '#' := fun h => (hrest.bare _ h).2.2 rfl
    have hmark : readSign? ('\'' :: (word.toList ++ rest)) = some ('\'', word.toList ++ rest) := rfl
    simp [readSignToken?, hmark, hread, hquote, hhash]
  rw [readLeaf?, hliteral, hsign, Option.none_or, Option.some_or]

/-! ## Literals of texts -/

theorem readLiteral?_quote {cs rest : List Char}
    (h : afterQuoted? .text (cs.length + 1) cs = some rest) : readLiteral? ('"' :: cs) =
      some (.literal .text (String.ofList (('"' :: cs).take (('"' :: cs).length - rest.length))),
        rest) := by
  have hfirst : (afterStart? "\"".toList ('"' :: cs)).bind
      (fun cs => afterQuoted? .text (cs.length + 1) cs) = some rest := h
  rw [readLiteral?, literalReaders]
  dsimp only
  rw [List.findSome?_cons]
  dsimp only
  rw [hfirst, Option.map_some]

/-- The literal of a text is read as a whole if it ends. -/
theorem readLeaf?_literal (text : String) {rest : List Char}
    (hrest : ∀ c ∈ rest.head?, isIdentStart c = false) :
    readLeaf? ((Text.literal text).toList ++ rest) = some (textLiteral text, rest) := by
  have hchars : (Text.literal text).toList ++ rest =
      '"' :: (literalBody text.toList ++ '"' :: rest) := by
    simp [Text.literal]
  have hsuffix : afterSuffix rest = rest := by
    cases rest with
    | nil => rfl
    | cons c rest => simp [afterSuffix, plainWord?, hrest c rfl]
  have hafter : afterQuoted? .text ((literalBody text.toList ++ '"' :: rest).length + 1)
      (literalBody text.toList ++ '"' :: rest) = some rest := by
    rw [afterQuoted?_literalBody _ _ (by rw [List.length_append]; omega), hsuffix]
  have hread := readLiteral?_quote hafter
  rw [← hchars, List.length_append, Nat.add_sub_cancel, List.take_left' rfl,
    String.ofList_toList] at hread
  rw [readLeaf?, hread, Option.some_or, textLiteral]

end StructMatch.Source
