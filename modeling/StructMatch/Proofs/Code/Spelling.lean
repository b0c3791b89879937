import StructMatch.Code.Layout
import StructMatch.Code.Tokens
import StructMatch.Proofs.Layout.Writing
import StructMatch.Proofs.Source.TokenReading

/-!
# Documents that spell tokens

A text spells tokens if it is read as them before anything that is read as others, `Spells`, and so
does a document wherever its lines are broken, `Prints`.  Both can be put together from parts.  What
has to be watched is that a word ends where the next one begins: each lemma tells whether what
follows must be cut off from the text, and whether the text is cut off from what stands before it.
-/

namespace StructMatch.Code

open Layout Source

variable {mode : Mode} {cs rest : List Char} {kind kind' : List Token → Prop}

/-! ## Words -/

/-- A word of code is an identifier, or one with a mark before it. -/
theorem isCodeWord_cases {word : String} (h : isCodeWord word = true) :
    Text.isIdentifier word.toList = true ∨
      ∃ name, word = "r#" ++ name ∧ Text.isRawIdentifier name = true := by
  unfold isCodeWord at h
  split at h
  · next marked hmark =>
      refine .inr ⟨String.ofList marked, String.toList_injective ?_, h⟩
      unfold Text.unraw.afterMark at hmark
      split at hmark
      · next heq =>
          obtain rfl := Option.some.inj hmark
          simp [heq]
      · exact absurd hmark (by simp)
  · exact .inl h

/-- A word of code stays on its line. -/
theorem stays_of_isCodeWord {word : String} (h : isCodeWord word = true) :
    ∀ c ∈ word.toList, c ≠ '\n' ∧ c ≠ '\r' := by
  have hletter {c : Char} (hc : Text.isIdentContinue c = true) : c ≠ '\n' ∧ c ≠ '\r' := by
    constructor <;>
    · rintro rfl
      exact absurd hc (by decide)
  rcases isCodeWord_cases h with hword | ⟨name, rfl, hname⟩
  · exact fun c hc => hletter (Text.isIdentContinue_of_mem hword hc)
  · rw [Text.isRawIdentifier, Bool.and_eq_true] at hname
    intro c hc
    rw [String.toList_append, List.mem_append] at hc
    rcases hc with hmark | hc
    · have hmarks : ∀ d ∈ "r#".toList, d ≠ '\n' ∧ d ≠ '\r' :=
        List.all_iff_forall_prop.1 (by decide)
      exact hmarks c hmark
    · exact hletter (Text.isIdentContinue_of_mem hname.1 hc)

/-! ## Texts -/

/-- Whether a text is read as tokens of some kind.  Where it is cut, a word or a literal before it
ends. -/
structure Scanned (cut : Bool) (kind : List Token → Prop) (rest cs : List Char) : Prop where
  scans : Scans cs kind rest
  clear : cut = true → Clear cs

theorem Scanned.mono {cut cut' : Bool} (h : Scanned cut kind rest cs) (hcut : cut' ≤ cut)
    (hkind : ∀ actual, kind actual → kind' actual) : Scanned cut' kind' rest cs :=
  ⟨h.scans.mono hkind, fun hcut' => h.clear (hcut hcut')⟩

theorem Scanned.blank {c : Char} {cut : Bool} (h : Scanned cut kind rest cs)
    (hc : c = ' ' ∨ c = '\n') : Scanned true kind rest (c :: cs) := by
  rcases hc with rfl | rfl
  · exact ⟨h.scans.blank (by decide), fun _ => clear_cons (by decide) (by decide)⟩
  · exact ⟨h.scans.blank (by decide), fun _ => clear_cons (by decide) (by decide)⟩

theorem keptByBlanks_scanned (cut : Bool) (kind : List Token → Prop) (rest : List Char) :
    KeptByBlanks (Scanned cut kind rest) :=
  fun _ h => (h.blank (.inl rfl)).mono (Bool.le_true cut) fun _ => id

theorem scanned_close (delimiter : Delimiter) (cs : List Char) :
    Scanned true (· = []) (Scans.closing delimiter :: cs) (Scans.closing delimiter :: cs) :=
  ⟨Scans.close delimiter, fun _ => by
    cases delimiter <;> exact clear_cons (by decide) (by decide)⟩

instance fact_false_le (cut : Bool) : Fact (false ≤ cut) := ⟨Bool.false_le cut⟩

instance fact_le_true (cut : Bool) : Fact (cut ≤ true) := ⟨Bool.le_true cut⟩

/-- Whether a text, before anything that is read as tokens, is read as the given tokens before
those.  The first mark tells whether what follows has to be cut off, and the second whether the text
itself is. -/
def Spells (needs cut : Bool) (text : String) (tokens : List Token) : Prop :=
  ∀ ts rest cs, Scanned needs (LaidOutFrom · ts) rest cs →
    Scanned cut (LaidOutFrom · (tokens ++ ts)) rest (text.toList ++ cs)

namespace Spells

variable {needs between cut : Bool} {text more : String} {tokens others : List Token}

theorem append (h : Spells between cut text tokens) {cut' : Bool}
    (hmore : Spells needs cut' more others) [hcut : Fact (between ≤ cut')] :
    Spells needs cut (text ++ more) (tokens ++ others) := by
  intro ts rest cs hcs
  rw [String.toList_append, List.append_assoc, List.append_assoc]
  exact h _ _ _ ((hmore ts rest cs hcs).mono hcut.out fun _ => id)

/-- What is read wherever it stands is read where it is cut off. -/
theorem loose (h : Spells needs cut text tokens) : Spells true false text tokens :=
  fun ts rest cs hcs => (h ts rest cs (hcs.mono (Bool.le_true needs) fun _ => id)).mono
    (Bool.false_le cut) fun _ => id

theorem empty (h : cut ≤ needs) : Spells needs cut "" [] :=
  fun _ _ _ hcs => hcs.mono h fun _ => id

theorem blank : Spells false true " " [] := fun _ _ _ h => h.blank (.inl rfl)

theorem word (h : isCodeWord text = true) : Spells true false text (Code.word text) := by
  intro ts rest cs hcs
  refine ⟨?_, by simp⟩
  rcases isCodeWord_cases h with hword | ⟨name, rfl, hname⟩
  · exact hcs.scans.word hword (hcs.clear rfl) fun _ => .word text
  · exact hcs.scans.rawWord hname (hcs.clear rfl) fun _ => .word _

theorem literal (text : String) : Spells true false (Text.literal text) [textLiteral text] :=
  fun _ _ _ h => ⟨h.scans.literal text (h.clear rfl) fun _ => .literal .text _, by simp⟩

theorem lifetime (name : String) (h : Text.isIdentifier name.toList = true) :
    Spells true false ("'" ++ name) (lifetimeTokens name) := by
  intro ts rest cs hcs
  refine ⟨?_, by simp⟩
  have hname : Scans (name.toList ++ cs) (LaidOutFrom · (.word name :: ts)) rest :=
    hcs.scans.word h (hcs.clear rfl) fun _ => .word name
  rw [String.toList_append]
  exact hname.quote h (hcs.clear rfl) fun _ => .sign '\'' fun h => h

theorem scans_signs {marks : List Char} (hmarks : ∀ c ∈ marks, c ∈ signMarks) {ts : List Token}
    (h : Scans cs (LaidOutFrom · ts) rest) :
    Scans (marks ++ cs) (LaidOutFrom · (signs.go marks ++ ts)) rest := by
  induction marks with
  | nil => exact h
  | cons c marks ih =>
      rw [List.forall_mem_cons] at hmarks
      cases marks with
      | nil => exact h.sign hmarks.1 fun _ => .sign c (by simp)
      | cons d marks =>
          refine (ih hmarks.2).sign hmarks.1 fun _ => .sign c fun _ => ?_
          exact Option.isSome_of_eq_some (readSign?_sign (hmarks.2 d List.mem_cons_self))

/-- Signs without a gap between them are read as signs that are joined. -/
theorem signs (hmarks : text.toList.all signMarks.contains = true)
    (hcut : cut = true → text.toList.head?.any (· ≠ '#') = true) :
    Spells false cut text (Source.signs text) := by
  have hmem : ∀ c ∈ text.toList, c ∈ signMarks := by simpa using hmarks
  intro ts rest cs hcs
  refine ⟨scans_signs hmem hcs.scans, fun h => ?_⟩
  obtain ⟨c, hc, hhash⟩ := (Option.any_eq_true _ _).1 (hcut h)
  obtain ⟨marks, hlist⟩ := List.head?_eq_some_iff.1 hc
  have hmark : ∀ d ∈ signMarks, Text.isIdentContinue d = false ∧ d ≠ '"' ∧ d ≠ '\'' :=
    List.all_iff_forall_prop.1 (by decide)
  obtain ⟨hends, hdouble, hsingle⟩ := hmark c (hmem c (by simp [hlist]))
  rw [hlist]
  exact clear_cons hends ⟨hdouble, hsingle, of_decide_eq_true hhash⟩

/-- Whether a text consists of signs that cut off what stands before them. -/
def areMarks (text : String) : Bool :=
  text.toList.all signMarks.contains && text.toList.head?.any (· ≠ '#')

theorem marks (text : String) (h : areMarks text = true) :
    Spells false true text (Source.signs text) := by
  rw [areMarks, Bool.and_eq_true] at h
  exact signs h.1 fun _ => h.2

/-- Words with a blank after each. -/
theorem phrase (texts : List String) (h : ∀ text ∈ texts, isCodeWord text = true) :
    Spells false false (texts.foldr (fun text more => text ++ (" " ++ more)) "") (words texts) := by
  induction texts with
  | nil => exact empty (by decide)
  | cons text texts ih =>
      rw [List.forall_mem_cons] at h
      exact (word h.1).append (blank.append (ih h.2))

/-- A group in a text. -/
theorem group {opened closed : String} (delimiter : Delimiter)
    (hopened : opened.toList = [Scans.opening delimiter])
    (hclosed : closed.toList = [Scans.closing delimiter]) (h : Spells true false text tokens) :
    Spells false true (opened ++ text ++ closed) [.group delimiter tokens] := by
  intro ts rest cs hcs
  have hchars : (opened ++ text ++ closed).toList ++ cs =
      Scans.opening delimiter :: (text.toList ++ Scans.closing delimiter :: cs) := by
    simp [hopened, hclosed]
  have hclose : Scanned true (LaidOutFrom · []) (Scans.closing delimiter :: cs)
      (Scans.closing delimiter :: cs) :=
    (scanned_close delimiter cs).mono (Bool.le_refl true) fun _ h => h ▸ .nil
  have hinner := (h _ _ _ hclose).scans
  rw [List.append_nil] at hinner
  rw [hchars]
  refine ⟨hinner.group hcs.scans fun _ _ => .group delimiter, fun _ => ?_⟩
  cases delimiter <;> exact clear_cons (by decide) (by decide)

end Spells

/-! ## Documents -/

/-- Whether documents, wherever their lines are broken, are read as the given tokens before others.
The two marks are those of the texts that spell tokens. -/
def Prints (mode : Mode) (needs cut : Bool) (docs : List Doc) (tokens : List Token) : Prop :=
  ∀ ts rest, Emits codePage mode docs (Scanned needs (LaidOutFrom · ts) rest)
    (Scanned cut (LaidOutFrom · (tokens ++ ts)) rest)

/-- A place between two tokens where a line may end. -/
theorem emits_gap {place : LineEnd} (hblanks : place.blanks ≠ 0) (hbefore : place.before = "")
    (hafter : place.after = "") (kind : List Token → Prop) (rest : List Char) :
    Emits codePage mode [.line place] (Scanned false kind rest) (Scanned true kind rest) := by
  refine Emits.line (fun _ cs hcs hgap => ⟨hcs.scans, fun _ => ?_⟩) (fun _ _ cs hcs _ => ?_)
    (absurd hbefore)
  · cases cs with
    | nil => exact clear_nil
    | cons c cs =>
        rcases hgap hblanks c rfl with rfl | rfl
        · exact clear_cons (by decide) (by decide)
        · exact clear_cons (by decide) (by decide)
  · rw [hbefore, hafter]
    exact hcs.blank (.inr rfl)

/-- A place where a line may end and nothing stands otherwise. -/
theorem emits_soft {place : LineEnd} (hbefore : place.before = "") (hafter : place.after = "")
    (cut : Bool) (kind : List Token → Prop) (rest : List Char) :
    Emits codePage mode [.line place] (Scanned cut kind rest) (Scanned cut kind rest) := by
  refine Emits.line (fun _ _ hcs _ => hcs) (fun _ _ cs hcs _ => ?_) (absurd hbefore)
  rw [hbefore, hafter]
  exact (hcs.blank (.inr rfl)).mono (Bool.le_true cut) fun _ => id

namespace Prints

variable {needs between cut cut' : Bool} {docs more : List Doc} {tokens others : List Token}

theorem append (h : Prints mode between cut docs tokens)
    (hmore : Prints mode needs cut' more others) [hcut : Fact (between ≤ cut')] :
    Prints mode needs cut (docs ++ more) (tokens ++ others) := by
  intro ts rest
  rw [List.append_assoc]
  exact (h _ rest).append
    ((hmore ts rest).mono (fun _ => id) fun _ hcs => hcs.mono hcut.out fun _ => id)

theorem mono {needs' : Bool} (h : Prints mode needs cut docs tokens) (hneeds : needs ≤ needs')
    (hcut : cut' ≤ cut) : Prints mode needs' cut' docs tokens :=
  fun ts rest => (h ts rest).mono (fun _ hcs => hcs.mono hneeds fun _ => id)
    fun _ hcs => hcs.mono hcut fun _ => id

/-- What is read wherever it stands is read where it is cut off. -/
theorem loose (h : Prints mode needs cut docs tokens) : Prints mode true false docs tokens :=
  h.mono (Bool.le_true needs) (Bool.false_le cut)

theorem of_eq (h : Prints mode needs cut docs tokens) (htokens : tokens = others) :
    Prints mode needs cut docs others := htokens ▸ h

theorem nil : Prints mode cut cut [] [] := fun _ _ => Emits.nil

theorem text {text : String} (h : Spells needs cut text tokens) :
    Prints mode needs cut [.text text] tokens :=
  fun ts rest => Emits.text (h ts rest) (keptByBlanks_scanned _ _ _)

theorem group {indent : Int} {together : Bool} {content : List Doc}
    (h : ∀ mode, Prints mode needs cut content tokens) :
    Prints mode needs cut [.group indent together content] tokens :=
  fun ts rest => Emits.group (h _ ts rest) (h _ ts rest)

theorem gap {place : LineEnd} (hblanks : place.blanks ≠ 0) (hbefore : place.before = "")
    (hafter : place.after = "") : Prints mode false true [.line place] [] :=
  fun ts rest => emits_gap hblanks hbefore hafter (LaidOutFrom · ts) rest

theorem soft {place : LineEnd} (hbefore : place.before = "") (hafter : place.after = "") :
    Prints mode cut cut [.line place] [] :=
  fun ts rest => emits_soft hbefore hafter cut (LaidOutFrom · ts) rest

theorem hardLine : Prints mode false true [Code.hardLine] [] := gap (by decide) rfl rfl

theorem closingLine : Prints mode false true [Code.closingLine] [] := gap (by decide) rfl rfl

theorem spaceLine : Prints mode false true [Code.spaceLine] [] := gap (by decide) rfl rfl

theorem softLine (cut : Bool) : Prints mode cut cut [Code.softLine] [] := soft rfl rfl

end Prints

/-! ### Lists -/

/-- Whether documents in brackets are read as the given tokens. -/
def PrintsInside (mode : Mode) (docs : List Doc) (tokens : List Token) : Prop :=
  ∀ rest, Emits codePage mode docs (Scanned true (· = []) rest)
    (Scanned false (LaidOutFrom · tokens) rest)

/-- What may stand where a list ends: tokens before which a comma can be added. -/
structure EndsList (kind : List Token → Prop) (ts : List Token) : Prop where
  without : ∀ actual, kind actual → LaidOutFrom actual ts
  withComma : ∀ actual joined, kind actual → LaidOutFrom (.sign ',' joined :: actual) ts

theorem endsList_nil : EndsList (· = []) [] where
  without := by
    rintro _ rfl
    exact .nil
  withComma := by
    rintro _ joined rfl
    exact .commaAdded joined

/-- Tokens that begin with the end of an angle bracket. -/
def BeginsWithAngle (ts actual : List Token) : Prop :=
  ∃ joined more, actual = .sign '>' joined :: more ∧ LaidOutFrom more ts

theorem endsList_angle (ts : List Token) : EndsList (BeginsWithAngle ts) (signs ">" ++ ts) where
  without := by
    rintro _ ⟨joined, more, rfl, h⟩
    exact .sign '>' (by simp) h
  withComma := by
    rintro _ joined' ⟨joined, more, rfl, h⟩
    exact .commaBeforeAngle joined' joined (.sign '>' (by simp) h)

theorem emits_listEnd {ts : List Token} (h : EndsList kind ts) (rest : List Char) :
    Emits codePage mode [listEnd] (Scanned true kind rest)
      (Scanned true (LaidOutFrom · ts) rest) := by
  refine Emits.line (fun _ cs hcs _ => hcs.mono (Bool.le_refl true) h.without)
    (fun _ _ cs hcs _ => ?_) (fun _ => keptByBlanks_scanned _ _ _)
  have hline := hcs.blank (.inr rfl)
  exact ⟨hline.scans.sign (by decide) fun actual => h.withComma actual _,
    fun _ => clear_cons (by decide) (by decide)⟩

theorem prints_items {items : List (List Doc)} {tokens : List (List Token)}
    (h : List.Forall₂ (Prints mode true false) items tokens) :
    Prints mode true false (items.intersperse [.text ",", spaceLine]).flatten
      (tokens.intersperse (signs ",")).flatten := by
  have hcomma : Prints mode false true [.text ","] (signs ",") :=
    .text (.marks "," (by decide))
  induction h with
  | nil => exact (@Prints.nil mode true).mono (by decide) (by decide)
  | @cons docs ts items tokens hdocs hmore ih =>
      cases hmore with
      | nil => simpa using hdocs
      | cons hnext hmore =>
          have := hdocs.append ((hcomma.append .spaceLine).append ih)
          simpa [List.intersperse_cons_cons] using this

/-- A list is read as its items with commas between them, wherever it ends. -/
theorem emits_listItems {indent : Int} {items : List (List Doc)} {tokens : List (List Token)}
    (h : ∀ mode, List.Forall₂ (Prints mode true false) items tokens)
    {ts : List Token} (hend : EndsList kind ts) (rest : List Char) :
    Emits codePage mode (listItems indent items) (Scanned true kind rest)
      (Scanned false (LaidOutFrom · ((tokens.intersperse (signs ",")).flatten ++ ts)) rest) := by
  cases items with
  | nil =>
      obtain rfl : tokens = [] := by
        cases h mode
        rfl
      exact Emits.nil.mono (fun _ => id) fun _ hcs => hcs.mono (by decide) hend.without
  | cons docs items =>
      have hcontent (mode : Mode) : Emits codePage mode
          ([softLine] ++ ((docs :: items).intersperse [.text ",", spaceLine]).flatten ++ [listEnd])
          (Scanned true kind rest)
          (Scanned false (LaidOutFrom · ((tokens.intersperse (signs ",")).flatten ++ ts)) rest) :=
        (emits_soft rfl rfl false _ rest).append (prints_items (h mode) ts rest) |>.append
          (emits_listEnd hend rest)
      exact Emits.group (hcontent _) (hcontent _)

/-! ### Brackets -/

/-- Whether a text is read as tokens of some kind up to a bracket, and what follows that as tokens
of another kind. -/
def Inside (cut : Bool) (inner : List Token → Prop) (delimiter : Delimiter)
    (kind : List Token → Prop) (rest cs : List Char) : Prop :=
  ∃ more, Scanned cut inner (Scans.closing delimiter :: more) cs ∧ Scans more kind rest

theorem emits_inside {docs : List Doc} {cut cut' : Bool} {inner inner' : List Token → Prop}
    (h : ∀ rest, Emits codePage mode docs (Scanned cut inner rest) (Scanned cut' inner' rest))
    (delimiter : Delimiter) (kind : List Token → Prop) (rest : List Char) :
    Emits codePage mode docs (Inside cut inner delimiter kind rest)
      (Inside cut' inner' delimiter kind rest) := by
  rintro indent further sheet ahead hgoes ⟨more, hahead, hmore⟩
  obtain ⟨cs, htext, hcs, hscanned⟩ := h _ indent further sheet ahead hgoes hahead
  exact ⟨cs, htext, hcs, more, hscanned, hmore⟩

theorem keptByBlanks_inside (cut : Bool) (inner : List Token → Prop) (delimiter : Delimiter)
    (kind : List Token → Prop) (rest : List Char) :
    KeptByBlanks (Inside cut inner delimiter kind rest) := by
  rintro cs ⟨more, hcs, hmore⟩
  exact ⟨more, keptByBlanks_scanned _ _ _ cs hcs, hmore⟩

theorem emits_close {text : String} {delimiter : Delimiter}
    (htext : text.toList = [Scans.closing delimiter]) (rest : List Char) :
    Emits codePage mode [.text text] (Scanned false kind rest)
      (Inside true (· = []) delimiter kind rest) := by
  refine Emits.text (fun cs hcs => ⟨cs, ?_, hcs.scans⟩) (keptByBlanks_inside _ _ _ _ _)
  rw [htext]
  exact scanned_close delimiter cs

theorem emits_open {text : String} {delimiter : Delimiter} (blanks : Nat)
    (htext : text.toList = List.replicate blanks ' ' ++ [Scans.opening delimiter])
    (tokens ts : List Token) (rest : List Char) :
    Emits codePage mode [.text text]
      (Inside false (LaidOutFrom · tokens) delimiter (LaidOutFrom · ts) rest)
      (Scanned true (LaidOutFrom · (.group delimiter tokens :: ts)) rest) := by
  refine Emits.text (fun cs hcs => ?_) (keptByBlanks_scanned _ _ _)
  obtain ⟨more, hinner, hmore⟩ := hcs
  rw [htext, List.append_assoc]
  refine (keptByBlanks_scanned _ _ _).replicate _ ⟨?_, fun _ => ?_⟩
  · exact hinner.scans.group hmore fun _ _ => .group delimiter
  · cases delimiter <;> exact clear_cons (by decide) (by decide)

theorem Prints.inside {needs cut : Bool} {docs : List Doc} {tokens : List Token}
    (h : Prints mode needs cut docs tokens) : PrintsInside mode docs tokens := by
  intro rest
  have hloose := h.loose [] rest
  rw [List.append_nil] at hloose
  exact hloose.mono (fun _ hcs => hcs.mono (Bool.le_refl true) fun _ hnil => hnil ▸ .nil)
    fun _ hcs => hcs

/-- A group in brackets. -/
theorem Prints.inBrackets {opened closed : String} (delimiter : Delimiter) (blanks : Nat)
    {docs : List Doc} {tokens : List Token}
    (hopened : opened.toList = List.replicate blanks ' ' ++ [Scans.opening delimiter])
    (hclosed : closed.toList = [Scans.closing delimiter]) (h : PrintsInside mode docs tokens) :
    Prints mode false true ([Doc.text opened] ++ docs ++ [Doc.text closed])
      [.group delimiter tokens] := fun ts rest =>
  ((emits_open blanks hopened tokens ts rest).append (emits_inside h delimiter _ rest)).append
    (emits_close hclosed rest)

/-- A group of which the opening bracket belongs to the lines before it. -/
theorem Prints.braced {needs cut : Bool} {opened closed : String} (delimiter : Delimiter)
    (blanks : Nat) {indent : Int} {together : Bool} {head docs : List Doc}
    {headTokens tokens : List Token}
    (hopened : opened.toList = List.replicate blanks ' ' ++ [Scans.opening delimiter])
    (hclosed : closed.toList = [Scans.closing delimiter])
    (hhead : ∀ mode, Prints mode needs cut head headTokens)
    (h : ∀ mode, PrintsInside mode docs tokens) :
    Prints mode false cut [.group indent together (head ++ [Doc.text opened] ++ docs), .text closed]
      (headTokens ++ [Token.group delimiter tokens]) := by
  intro ts rest
  have hcontent (mode : Mode) : Emits codePage mode (head ++ [Doc.text opened] ++ docs)
      (Inside true (· = []) delimiter (LaidOutFrom · ts) rest)
      (Scanned cut (LaidOutFrom · (headTokens ++ .group delimiter tokens :: ts)) rest) :=
    (((hhead mode).mono (Bool.le_true needs) (Bool.le_refl cut) _ rest).append
      (emits_open blanks hopened tokens ts rest)).append (emits_inside (h mode) delimiter _ rest)
  rw [List.append_assoc headTokens]
  exact (Emits.group (hcontent _) (hcontent _)).cons (emits_close hclosed rest)

/-- A list in angle brackets. -/
theorem Prints.inAngles {cut : Bool} {opened : String} {indent : Int} {items : List (List Doc)}
    {openTokens : List Token} {tokens : List (List Token)}
    (hopened : Spells false cut opened openTokens)
    (h : ∀ mode, List.Forall₂ (Prints mode true false) items tokens) :
    Prints mode false cut ([Doc.text opened] ++ listItems indent items ++ [Doc.text ">"])
      (openTokens ++ (tokens.intersperse (signs ",")).flatten ++ signs ">") := by
  intro ts rest
  have hclosed : Emits codePage mode [.text ">"] (Scanned false (LaidOutFrom · ts) rest)
      (Scanned true (BeginsWithAngle ts) rest) := by
    refine Emits.text (fun cs hcs => ⟨?_, fun _ => ?_⟩) (keptByBlanks_scanned _ _ _)
    · exact hcs.scans.sign (by decide) fun actual hactual => ⟨_, actual, rfl, hactual⟩
    · exact clear_cons (by decide) (by decide)
  have htokens : openTokens ++ (tokens.intersperse (signs ",")).flatten ++ signs ">" ++ ts =
      openTokens ++ ((tokens.intersperse (signs ",")).flatten ++ (signs ">" ++ ts)) := by
    simp only [List.append_assoc]
  rw [htokens]
  have hlist : Emits codePage mode (listItems indent items) _ _ :=
    emits_listItems h (endsList_angle ts) rest
  exact ((Prints.text hopened _ rest).append hlist).append hclosed

/-- A list in round brackets. -/
theorem PrintsInside.list {indent : Int} {items : List (List Doc)} {tokens : List (List Token)}
    (h : ∀ mode, List.Forall₂ (Prints mode true false) items tokens) :
    PrintsInside mode (listItems indent items) (tokens.intersperse (signs ",")).flatten := by
  intro rest
  have hlist : Emits codePage mode (listItems indent items) _ _ :=
    emits_listItems h endsList_nil rest
  rwa [List.append_nil] at hlist

end StructMatch.Code
