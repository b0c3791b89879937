import Mathlib.Data.List.Basic
import StructMatch.Source.File

/-!
# Following a rule

What a rule does with given tokens is found by following it step by step.  `Reads` says the outcome:
the rule moves on to the given rest, yields the given value and reads nothing verbatim, and what it
spells on the way does not matter.  The steps are the equations below, by which the simplifier runs
a rule on a cursor, `andThen` being what is left to do after the step at hand.
-/

namespace StructMatch.Source

open Parse

variable {α β : Type} {ts rest spelled : List Token} {hasVerbatim : Bool}

/-- Whether a rule reads the tokens up to the rest and yields the value, and reads nothing
verbatim. -/
def Reads (rule : Parse α) (ts rest : List Token) (a : α) : Prop :=
  ∀ spelled hasVerbatim, ∃ after,
    rule ⟨ts, spelled, hasVerbatim⟩ = some (a, ⟨rest, after, hasVerbatim⟩)

/-- Whether a rule reads the tokens up to the rest, whatever it yields. -/
def Passes (rule : Parse α) (ts rest : List Token) : Prop :=
  ∀ spelled hasVerbatim, ∃ a after,
    rule ⟨ts, spelled, hasVerbatim⟩ = some (a, ⟨rest, after, hasVerbatim⟩)

/-- What is spelled after a rule. -/
def spelledAfter (rule : Parse α) (c : Cursor) : List Token :=
  match rule c with
  | some (_, c) => c.spelled
  | none => []

theorem Reads.run {rule : Parse α} {a : α} (h : Reads rule ts rest a) :
    rule ⟨ts, spelled, hasVerbatim⟩ =
      some (a, ⟨rest, spelledAfter rule ⟨ts, spelled, hasVerbatim⟩, hasVerbatim⟩) := by
  obtain ⟨after, hrun⟩ := h spelled hasVerbatim
  rw [spelledAfter, hrun]

theorem Reads.passes {rule : Parse α} {a : α} (h : Reads rule ts rest a) : Passes rule ts rest :=
  fun spelled hasVerbatim => ⟨a, h spelled hasVerbatim⟩

/-- What a rule that passes over tokens yields. -/
noncomputable def Passes.value {rule : Parse α} (h : Passes rule ts rest) (spelled : List Token)
    (hasVerbatim : Bool) : α :=
  (h spelled hasVerbatim).choose

theorem Passes.run {rule : Parse α} (h : Passes rule ts rest) :
    rule ⟨ts, spelled, hasVerbatim⟩ =
      some (h.value spelled hasVerbatim,
        ⟨rest, spelledAfter rule ⟨ts, spelled, hasVerbatim⟩, hasVerbatim⟩) := by
  obtain ⟨after, hrun⟩ := (h spelled hasVerbatim).choose_spec
  rw [spelledAfter, hrun]
  rfl

/-! ## Steps -/

/-- The outcome of a rule before the next one.  Its type names the next rule, so that the simplifier
leaves that alone for as long as the outcome is not known. -/
abbrev Outcome (_ : α → Parse β) := Option (α × Cursor)

/-- What a rule comes to after the outcome of another one. -/
def andThen (next : α → Parse β) (outcome : Outcome next) : Option (β × Cursor) :=
  match outcome with
  | some (a, c) => next a c
  | none => none

@[simp]
theorem andThen_some (a : α) (c : Cursor) (next : α → Parse β) :
    andThen next (some (a, c)) = next a c := (rfl)

@[simp]
theorem andThen_none (next : α → Parse β) : andThen next none = none := (rfl)

@[simp ↓]
theorem run_bind (rule : Parse α) (next : α → Parse β) (c : Cursor) :
    (rule >>= next) c = andThen next (rule c) := by
  show StateT.bind rule next c = andThen next (rule c)
  unfold StateT.bind andThen
  cases rule c <;> rfl

@[simp]
theorem run_pure (a : α) (c : Cursor) : (pure a : Parse α) c = some (a, c) := (rfl)

@[simp ↓]
theorem run_map (f : α → β) (rule : Parse α) (c : Cursor) :
    (f <$> rule) c = andThen (fun a => pure (f a)) (rule c) := by
  rw [← bind_pure_comp, run_bind]

@[simp ↓]
theorem run_ite (p : Prop) [Decidable p] (rule rule' : Parse α) (c : Cursor) :
    (if p then rule else rule') c = if p then rule c else rule' c := by
  split <;> rfl

@[simp]
theorem run_get (c : Cursor) : (get : Parse Cursor) c = some (c, c) := (rfl)

@[simp]
theorem run_set (c c' : Cursor) : (set c' : Parse PUnit) c = some ((), c') := (rfl)

@[simp]
theorem run_modify (f : Cursor → Cursor) (c : Cursor) :
    (modify f : Parse PUnit) c = some ((), f c) := (rfl)

@[simp]
theorem run_sees (look : Look) (c : Cursor) : sees look c = some (look c.rest, c) := (rfl)

@[simp]
theorem run_reject (c : Cursor) : (reject : Parse α) c = none := (rfl)

@[simp]
theorem run_require_true (c : Cursor) : require true c = some ((), c) := (rfl)

@[simp]
theorem run_require_false (c : Cursor) : require false c = none := (rfl)

@[simp]
theorem run_spell (tokens : List Token) (c : Cursor) :
    spell tokens c = some ((), ⟨c.rest, tokens.reverse ++ c.spelled, c.hasVerbatim⟩) := (rfl)

@[simp]
theorem run_advance (count : Nat) (c : Cursor) :
    advance count c = some ((), ⟨c.rest.drop count, c.spelled, c.hasVerbatim⟩) := (rfl)

@[simp]
theorem run_token (t : Token) :
    token ⟨t :: ts, spelled, hasVerbatim⟩ = some (t, ⟨ts, t :: spelled, hasVerbatim⟩) := (rfl)

theorem length_signs (text : String) : (signs text).length = text.length := by
  have hgo : ∀ cs : List Char, (signs.go cs).length = cs.length := by
    intro cs
    induction cs with
    | nil => rfl
    | cons c cs ih => cases cs <;> simp_all [signs.go]
  rw [signs, hgo, String.length_toList]

@[simp]
theorem run_sign (text : String) (c : Cursor) :
    sign text c =
      if Look.sign text c.rest then
        some ((), ⟨c.rest.drop (signs text).length, (signs text).reverse ++ c.spelled,
          c.hasVerbatim⟩)
      else none := by
  unfold sign
  cases h : Look.sign text c.rest <;> simp [h, length_signs]

@[simp]
theorem run_silentSign (text : String) (c : Cursor) :
    silentSign text c =
      if Look.sign text c.rest then
        some ((), ⟨c.rest.drop (signs text).length, c.spelled, c.hasVerbatim⟩)
      else none := by
  unfold silentSign
  cases h : Look.sign text c.rest <;> simp [h, length_signs]

@[simp]
theorem run_keyword (text word : String) :
    keyword text ⟨.word word :: ts, spelled, hasVerbatim⟩ =
      if word = text then some ((), ⟨ts, .word word :: spelled, hasVerbatim⟩) else none := by
  unfold keyword
  by_cases h : word = text <;> simp [h, Look.word]

theorem run_anyWord {word : String} (h : Text.isIdentifier (Text.unraw word).toList = true) :
    anyWord ⟨.word word :: ts, spelled, hasVerbatim⟩ =
      some (⟨word, h⟩, ⟨ts, .word word :: spelled, hasVerbatim⟩) := by
  simp [anyWord, Text.Word.ofText?, h]

theorem run_lifetime {word : String} (h : Text.isIdentifier (Text.unraw word).toList = true) :
    lifetime ⟨.sign '\'' true :: .word word :: ts, spelled, hasVerbatim⟩ =
      some (word, ⟨ts, .word word :: .sign '\'' true :: spelled, hasVerbatim⟩) := by
  simp [lifetime, Look.lifetime, run_anyWord h]

@[simp]
theorem run_literal (kind : LiteralKind) (text : String) :
    literal ⟨.literal kind text :: ts, spelled, hasVerbatim⟩ =
      some ((), ⟨ts, .literal kind text :: spelled, hasVerbatim⟩) := by
  simp [literal, Look.literal]

/-! ### Groups -/

/-- What a group comes to after the outcome of the rule for its content. -/
def closeGroup (delimiter : Delimiter) (rest spelled : List Token) :
    Option (α × Cursor) → Option (α × Cursor)
  | some (a, ⟨[], inner, hasVerbatim⟩) =>
    some (a, ⟨rest, .group delimiter inner.reverse :: spelled, hasVerbatim⟩)
  | _ => none

@[simp]
theorem closeGroup_some (delimiter : Delimiter) (a : α) (inner : List Token) :
    closeGroup delimiter rest spelled (some (a, ⟨[], inner, hasVerbatim⟩)) =
      some (a, ⟨rest, .group delimiter inner.reverse :: spelled, hasVerbatim⟩) := (rfl)

@[simp ↓]
theorem run_group (delimiter other : Delimiter) (rule : Parse α) (inner : List Token) :
    group delimiter rule ⟨.group other inner :: rest, spelled, hasVerbatim⟩ =
      if other = delimiter then closeGroup delimiter rest spelled (rule ⟨inner, [], hasVerbatim⟩)
      else none := by
  by_cases h : other = delimiter
  · subst h
    simp only [group, run_bind, run_get, andThen_some, decide_true, run_require_true, if_true]
    rcases rule ⟨inner, [], hasVerbatim⟩ with _ | ⟨a, ⟨_ | ⟨t, ts⟩, after, mark⟩⟩ <;> rfl
  · simp [group, h]

@[simp]
theorem run_anyGroup (delimiter : Delimiter) (inner : List Token) :
    anyGroup ⟨.group delimiter inner :: ts, spelled, hasVerbatim⟩ =
      some ((delimiter, inner), ⟨ts, .group delimiter inner :: spelled, hasVerbatim⟩) := by
  simp [anyGroup]

/-! ### Spelling -/

@[simp ↓]
theorem run_spelledBy (rule : Parse α) (c : Cursor) :
    spelledBy rule c = andThen
      (fun a c' => some ((a, c'.spelled.reverse), ⟨c'.rest, c.spelled, c'.hasVerbatim⟩))
      (rule ⟨c.rest, [], c.hasVerbatim⟩) := by
  unfold spelledBy
  simp only [run_bind, run_get, andThen_some, run_modify]
  rfl

@[simp ↓]
theorem run_withSpelling (rule : Parse α) (c : Cursor) :
    withSpelling rule c = andThen
      (fun a c' =>
        some ((a, c'.spelled.reverse), ⟨c'.rest, c'.spelled ++ c.spelled, c'.hasVerbatim⟩))
      (rule ⟨c.rest, [], c.hasVerbatim⟩) := by
  unfold withSpelling
  rw [run_bind, run_spelledBy]
  rcases rule ⟨c.rest, [], c.hasVerbatim⟩ with _ | ⟨a, c'⟩ <;> simp

@[simp ↓]
theorem run_verbatimIf (isVerbatim : α → Bool) (rule : Parse α) (c : Cursor) :
    verbatimIf isVerbatim rule c = andThen
      (fun a c' => some (a, if isVerbatim a then
        ⟨c'.rest, (c.rest.take (c.rest.length - c'.rest.length)).reverse ++ c.spelled, true⟩
      else c')) (rule c) := by
  unfold verbatimIf
  simp only [run_bind, run_get, andThen_some]
  congr 1
  funext a c'
  cases h : isVerbatim a <;> simp

/-! ### Choices -/

@[simp ↓]
theorem run_optional (look : Look) (rule : Parse Unit) (c : Cursor) :
    Parse.optional look rule c =
      if look c.rest then andThen (fun _ => pure true) (rule c) else some (false, c) := by
  cases h : look c.rest <;> simp [Parse.optional, h]

@[simp]
theorem optionalSign_eq (text : String) :
    optionalSign text = Parse.optional (Look.sign text) (sign text) := (rfl)

@[simp]
theorem optionalWord_eq (text : String) :
    optionalWord text = Parse.optional (Look.word text) (keyword text) := (rfl)

@[simp ↓]
theorem run_ahead? (rule : Parse α) (c : Cursor) : ahead? rule c = some (rule c, c) := (rfl)

@[simp ↓]
theorem run_attempt (rule : Parse α) (c : Cursor) :
    attempt rule c =
      match rule c with
      | some (a, c') => some (some a, c')
      | none => some (none, c) := by
  unfold attempt
  rw [run_bind, run_ahead?, andThen_some]
  cases rule c <;> rfl

/-! ### Repetitions -/

@[simp ↓]
theorem run_repeatWhile (look : Look) (rule : Parse α) (c : Cursor) :
    repeatWhile look rule c = repeatWhile.go look rule (c.rest.length + 1) c := (rfl)

@[simp ↓]
theorem run_repeatWhile_go (look : Look) (rule : Parse α) (n : Nat) (c : Cursor) :
    repeatWhile.go look rule (n + 1) c =
      if look c.rest then andThen (fun a => (a :: ·) <$> repeatWhile.go look rule n) (rule c)
      else some ([], c) := by
  simp only [repeatWhile.go, bind_pure_comp, run_bind, run_sees, andThen_some, run_ite, run_pure]

@[simp ↓]
theorem run_loop {σ : Type} (step : σ → Parse (Option σ)) (s : σ) (c : Cursor) :
    loop step s c = loop.go step (c.rest.length + 1) s c := (rfl)

@[simp ↓]
theorem run_loop_go {σ : Type} (step : σ → Parse (Option σ)) (n : Nat) (s : σ) (c : Cursor) :
    loop.go step (n + 1) s c = andThen
      (fun
        | some s' => loop.go step n s'
        | none => pure s) (step s c) := by
  unfold loop.go
  exact run_bind _ _ c

theorem run_separated (sep : String) (ended : Look) (rule : Parse α) (c : Cursor) :
    separated sep ended rule c = separated.go sep ended rule (c.rest.length + 1) c := (rfl)

theorem run_separated_go (sep : String) (ended : Look) (rule : Parse α) (n : Nat) (c : Cursor) :
    separated.go sep ended rule (n + 1) c =
      if ended c.rest then some ([], c)
      else andThen
        (fun a c' =>
          if ended c'.rest then some ([a], c')
          else andThen (fun _ => (a :: ·) <$> separated.go sep ended rule n) (sign sep c'))
        (rule c) := by
  rw [separated.go, run_bind, run_sees, andThen_some]
  cases ended c.rest with
  | true => rfl
  | false =>
      rw [if_neg (by decide), if_neg (by decide), run_bind]
      congr 1
      funext a c'
      rw [run_bind, run_sees, andThen_some]
      cases ended c'.rest with
      | true => rfl
      | false => simp only [run_ite, Bool.false_eq_true, if_false, run_bind, bind_pure_comp]

theorem run_chained (sep : String) (ended : Look) (rule : Parse α) (c : Cursor) :
    chained sep ended rule c = chained.go sep ended rule (c.rest.length + 1) c := (rfl)

theorem run_chained_go (sep : String) (ended : Look) (rule : Parse α) (n : Nat) (c : Cursor) :
    chained.go sep ended rule (n + 1) c =
      if ended c.rest then some ([], c)
      else andThen
        (fun a => do
          if ← optionalSign sep then return a :: (← chained.go sep ended rule n) else return [a])
        (rule c) := by
  rw [chained.go, run_bind, run_sees, andThen_some]
  cases ended c.rest with
  | true => rfl
  | false => rw [if_neg (by decide), if_neg (by decide), run_bind]

/-! ## Looks

What a look answers hangs on the first tokens only.  The equations go by their form, so that a look
at tokens that are not known is left alone. -/

section Looks

variable {text word : String} {c : Char} {joined : Bool} {delimiter other : Delimiter}
  {kind : LiteralKind} {inner : List Token} {look : Look}

theorem look_sign_of_not (h : text ≠ "") (hts : ∀ c joined rest, ts ≠ .sign c joined :: rest) :
    Look.sign text ts = false := by
  unfold Look.sign
  cases htext : text.toList with
  | nil => exact absurd (String.toList_eq_nil_iff.1 htext) h
  | cons c cs =>
      rcases ts with _ | ⟨⟨⟩, ts⟩ <;> cases cs <;> first | rfl | exact absurd rfl (hts _ _ _)

@[simp]
theorem look_sign_nil (h : text ≠ "") : Look.sign text [] = false :=
  look_sign_of_not h (by simp)

@[simp]
theorem look_sign_word (h : text ≠ "") : Look.sign text (.word word :: ts) = false :=
  look_sign_of_not h (by simp)

@[simp]
theorem look_sign_group (h : text ≠ "") :
    Look.sign text (.group delimiter inner :: ts) = false :=
  look_sign_of_not h (by simp)

@[simp]
theorem look_sign_literal (h : text ≠ "") :
    Look.sign text (.literal kind word :: ts) = false :=
  look_sign_of_not h (by simp)

@[simp]
theorem look_sign_sign : Look.sign text (.sign c joined :: ts) =
    Look.sign.go text.toList (.sign c joined :: ts) := (rfl)

@[simp]
theorem look_any_nil : Look.any [] ts = false := (rfl)

@[simp]
theorem look_any_cons (look : Look) (looks : List Look) :
    Look.any (look :: looks) ts = (look ts || Look.any looks ts) := (rfl)

@[simp]
theorem look_skip_sign (h : c ≠ '\'') : Look.skip (.sign c joined :: ts) = ts := by
  rcases ts with _ | ⟨⟨⟩, ts⟩ <;> simp [Look.skip, h]

@[simp]
theorem look_skip_lifetime : Look.skip (.sign '\'' true :: .word word :: ts) = ts := (rfl)

@[simp]
theorem look_skip_word : Look.skip (.word word :: ts) = ts := (rfl)

@[simp]
theorem look_skip_group : Look.skip (.group delimiter inner :: ts) = ts := (rfl)

@[simp]
theorem look_skip_literal : Look.skip (.literal kind word :: ts) = ts := (rfl)

@[simp]
theorem look_second_nil : Look.second look [] = false := (rfl)

@[simp]
theorem look_second_cons (t : Token) :
    Look.second look (t :: ts) = look (Look.skip (t :: ts)) := (rfl)

@[simp]
theorem look_third_eq : Look.third look = Look.second (Look.second look) := (rfl)

@[simp]
theorem look_word_nil : Look.word text [] = false := (rfl)

@[simp]
theorem look_word_cons (t : Token) : Look.word text (t :: ts) =
    match t with
    | .word other => decide (other = text)
    | _ => false := by
  cases t <;> rfl

@[simp]
theorem look_anyWord_nil : Look.anyWord [] = false := (rfl)

@[simp]
theorem look_anyWord_cons (t : Token) : Look.anyWord (t :: ts) =
    match t with
    | .word _ => true
    | _ => false := by
  cases t <;> rfl

@[simp]
theorem look_name_nil : Look.name [] = false := (rfl)

@[simp]
theorem look_name_cons (t : Token) : Look.name (t :: ts) =
    match t with
    | .word text => !Text.isReserved text
    | _ => false := by
  cases t <;> rfl

@[simp]
theorem look_group_nil : Look.group delimiter [] = false := (rfl)

@[simp]
theorem look_group_cons (t : Token) : Look.group delimiter (t :: ts) =
    match t with
    | .group other _ => decide (other = delimiter)
    | _ => false := by
  cases t <;> rfl

@[simp]
theorem look_textLiteral_nil : Look.textLiteral [] = false := (rfl)

@[simp]
theorem look_textLiteral_cons (t : Token) : Look.textLiteral (t :: ts) =
    match t with
    | .literal .text _ => true
    | _ => false := by
  rcases t with _ | _ | ⟨⟨⟩, _⟩ | _ <;> rfl

@[simp]
theorem look_lifetime_nil : Look.lifetime [] = false := (rfl)

@[simp]
theorem look_lifetime_cons (t : Token) : Look.lifetime (t :: ts) =
    match t with
    | .sign c joined => c = '\'' && joined && Look.anyWord ts
    | _ => false := by
  cases t <;> rcases ts with _ | ⟨⟨⟩, ts⟩ <;> simp [Look.lifetime]

@[simp]
theorem look_literal_nil : Look.literal [] = false := (rfl)

@[simp]
theorem look_literal_cons (t : Token) : Look.literal (t :: ts) =
    match t with
    | .literal _ _ => true
    | .word text => text = "true" || text = "false"
    | .sign c _ => c = '-' && ts.head?.any fun
      | .literal kind _ => kind = .integer || kind = .decimal
      | _ => false
    | .group _ _ => false := by
  cases t <;> rcases ts with _ | ⟨⟨⟩, ts⟩ <;> simp [Look.literal]

attribute [simp] Look.sign.go Look.nothing Look.onlySign signs signs.go

end Looks

/-! ## Rows

The rounds of a repetition are counted, by no fewer than there are tokens ahead.  That a repetition
reads a row is shown for all counts that are large enough, so that a row can be read item by
item. -/

section Rows

variable {look ended : Look} {rule : Parse α} {mid : List Token} {a : α} {as : List α}
  {joined : Bool}

/-- Whether repeating a rule reads the tokens up to the rest and yields the values. -/
def Repeats (look : Look) (rule : Parse α) (ts rest : List Token) (as : List α) : Prop :=
  ∀ n, ts.length < n → Reads (repeatWhile.go look rule n) ts rest as

theorem Repeats.reads (h : Repeats look rule ts rest as) :
    Reads (repeatWhile look rule) ts rest as :=
  h _ (Nat.lt_succ_self _)

theorem repeats_nil (rule : Parse α) (h : look ts = false) : Repeats look rule ts ts [] := by
  intro n hn spelled hasVerbatim
  obtain ⟨n, rfl⟩ := Nat.exists_eq_add_one_of_ne_zero (by omega : n ≠ 0)
  simp [h]

theorem repeats_cons (hlook : look ts = true) (hfirst : Reads rule ts mid a)
    (hlength : mid.length < ts.length) (hmore : Repeats look rule mid rest as) :
    Repeats look rule ts rest (a :: as) := by
  intro n hn spelled hasVerbatim
  obtain ⟨n, rfl⟩ := Nat.exists_eq_add_one_of_ne_zero (by omega : n ≠ 0)
  have hlater := hmore n (by omega)
  simp [hlook, hfirst.run, hlater.run]

/-- Whether repeating a rule passes over the tokens up to the rest. -/
def PassesRow (look : Look) (rule : Parse α) (ts rest : List Token) : Prop :=
  ∀ n, ts.length < n → Passes (repeatWhile.go look rule n) ts rest

theorem PassesRow.passes (h : PassesRow look rule ts rest) :
    Passes (repeatWhile look rule) ts rest :=
  h _ (Nat.lt_succ_self _)

theorem passesRow_nil (rule : Parse α) (h : look ts = false) : PassesRow look rule ts ts :=
  fun n hn => (repeats_nil rule h n hn).passes

theorem passesRow_cons (hlook : look ts = true) (hfirst : Passes rule ts mid)
    (hlength : mid.length < ts.length) (hmore : PassesRow look rule mid rest) :
    PassesRow look rule ts rest := by
  intro n hn spelled hasVerbatim
  obtain ⟨n, rfl⟩ := Nat.exists_eq_add_one_of_ne_zero (by omega : n ≠ 0)
  have hlater := hmore n (by omega)
  simp [hlook, hfirst.run, hlater.run]

/-- Whether a list with commas reads the tokens up to the rest and yields the values. -/
def Lists (ended : Look) (rule : Parse α) (ts rest : List Token) (as : List α) : Prop :=
  ∀ n, ts.length < n → Reads (separated.go "," ended rule n) ts rest as

theorem Lists.reads (h : Lists ended rule ts rest as) :
    Reads (separated "," ended rule) ts rest as :=
  h _ (Nat.lt_succ_self _)

theorem lists_nil (rule : Parse α) (h : ended ts = true) : Lists ended rule ts ts [] := by
  intro n hn spelled hasVerbatim
  obtain ⟨n, rfl⟩ := Nat.exists_eq_add_one_of_ne_zero (by omega : n ≠ 0)
  simp [run_separated_go, h]

theorem lists_last (hstart : ended ts = false) (hlast : Reads rule ts rest a)
    (hend : ended rest = true) : Lists ended rule ts rest [a] := by
  intro n hn spelled hasVerbatim
  obtain ⟨n, rfl⟩ := Nat.exists_eq_add_one_of_ne_zero (by omega : n ≠ 0)
  simp [run_separated_go, hstart, hlast.run, hend]

theorem lists_cons (hstart : ended ts = false) (hfirst : Reads rule ts (.sign ',' joined :: mid) a)
    (hcomma : ended (.sign ',' joined :: mid) = false) (hlength : mid.length < ts.length)
    (hmore : Lists ended rule mid rest as) : Lists ended rule ts rest (a :: as) := by
  intro n hn spelled hasVerbatim
  obtain ⟨n, rfl⟩ := Nat.exists_eq_add_one_of_ne_zero (by omega : n ≠ 0)
  have hlater := hmore n (by omega)
  simp [run_separated_go, hstart, hfirst.run, hcomma, hlater.run]

/-- A single item with a comma after it fills a group. -/
theorem reads_commas_one (hne : ts ≠ []) (h : Reads rule ts [.sign ',' joined] a) :
    Reads (commas rule) ts [] [a] :=
  (lists_cons (by simp [Look.nothing, hne]) h (by simp [Look.nothing])
    (List.length_pos_iff.2 hne) (lists_nil rule rfl)).reads

/-- Whether a chain with the given sign reads the tokens up to the rest and yields the values. -/
def Chains (sep : String) (ended : Look) (rule : Parse α) (ts rest : List Token) (as : List α) :
    Prop :=
  ∀ n, ts.length < n → Reads (chained.go sep ended rule n) ts rest as

variable {sep : String}

theorem Chains.reads (h : Chains sep ended rule ts rest as) :
    Reads (chained sep ended rule) ts rest as :=
  h _ (Nat.lt_succ_self _)

theorem chains_last (hstart : ended ts = false) (hlast : Reads rule ts rest a)
    (hend : Look.sign sep rest = false) : Chains sep ended rule ts rest [a] := by
  intro n hn spelled hasVerbatim
  obtain ⟨n, rfl⟩ := Nat.exists_eq_add_one_of_ne_zero (by omega : n ≠ 0)
  simp [run_chained_go, hstart, hlast.run, hend]

theorem chains_cons {c : Char} (hsep : sep.toList = [c]) (hc : c ≠ '\'') (hstart : ended ts = false)
    (hfirst : Reads rule ts (.sign c joined :: mid) a) (hlength : mid.length < ts.length)
    (hmore : Chains sep ended rule mid rest as) : Chains sep ended rule ts rest (a :: as) := by
  intro n hn spelled hasVerbatim
  obtain ⟨n, rfl⟩ := Nat.exists_eq_add_one_of_ne_zero (by omega : n ≠ 0)
  have hlater := hmore n (by omega)
  simp [run_chained_go, hstart, hfirst.run, hsep, hc, hlater.run]

end Rows

/-! ## Names -/

/-- Whether a word can be a name. -/
structure IsName (word : String) : Prop where
  isReserved : Text.isReserved word = false
  isWord : Text.isIdentifier (Text.unraw word).toList = true

instance (word : String) : Decidable (IsName word) :=
  decidable_of_iff
    (Text.isReserved word = false ∧ Text.isIdentifier (Text.unraw word).toList = true)
    ⟨fun ⟨hreserved, hword⟩ => ⟨hreserved, hword⟩, fun h => ⟨h.isReserved, h.isWord⟩⟩

namespace IsName

variable {word other : String}

theorem ne (h : IsName word) (hother : Text.isReserved other = true) : word ≠ other := by
  rintro rfl
  rw [h.isReserved] at hother
  exact absurd hother (by decide)

theorem run_name (h : IsName word) :
    name ⟨.word word :: ts, spelled, hasVerbatim⟩ =
      some (⟨word, h.isWord⟩, ⟨ts, .word word :: spelled, hasVerbatim⟩) := by
  simp [name, h.isReserved, run_anyWord h.isWord]

end IsName

end StructMatch.Source
