import StructMatch.Source.Token
import StructMatch.Text.Identifier

/-!
# Reading source code token by token

A grammar rule reads tokens from a cursor and either fails or moves on.  Beside the tokens still to
be read the cursor keeps the spelling of those read so far, in which each sign of the grammar stands
on its own: two signs that the text writes without a gap, but that the grammar reads separately,
are apart in the spelling.  What is checked for its form only is verbatim: it is spelled token for
token as the source has it.

A look is a question about the tokens ahead.  Looks decide between rules; once a rule is chosen, its
failure is final, unless it was only attempted.
-/

namespace StructMatch.Source

/-- The tokens ahead and the spelling of the tokens read, which is reversed. -/
structure Cursor where
  rest : List Token
  spelled : List Token := []
  /-- Whether something verbatim has been read. -/
  hasVerbatim : Bool := false

/-- A grammar rule. -/
abbrev Parse := StateT Cursor Option

/-- A question about the tokens ahead. -/
abbrev Look := List Token → Bool

/-! ## Looks -/

namespace Look

/-- Whether the sign is ahead, no matter what follows its last character. -/
def sign (text : String) : Look := go text.toList
where
  /-- All characters but the last one have to be joined to the next. -/
  go : List Char → Look
    | [], _ => true
    | [c], .sign d _ :: _ => c = d && c ≠ '\''
    | c :: cs, .sign d joined :: rest => c = d && joined && go cs rest
    | _ :: _, _ => false

/-- Whether the word is ahead. -/
def word (text : String) : Look
  | .word other :: _ => other = text
  | _ => false

/-- Whether any word is ahead, reserved or not. -/
def anyWord : Look
  | .word _ :: _ => true
  | _ => false

/-- Whether a word is ahead that can be a name. -/
def name : Look
  | .word text :: _ => !Text.isReserved text
  | _ => false

/-- Whether a lifetime is ahead. -/
def lifetime : Look
  | .sign c joined :: .word _ :: _ => c = '\'' && joined
  | _ => false

/-- Whether a group with the given brackets is ahead. -/
def group (delimiter : Delimiter) : Look
  | .group other _ :: _ => other = delimiter
  | _ => false

/-- Whether a text literal is ahead. -/
def textLiteral : Look
  | .literal .text _ :: _ => true
  | _ => false

/-- Whether a literal is ahead, which may be a truth value or a negative number. -/
def literal : Look
  | .literal _ _ :: _ => true
  | .word text :: _ => text = "true" || text = "false"
  | .sign c _ :: .literal kind _ :: _ => c = '-' && (kind = .integer || kind = .decimal)
  | _ => false

/-- Whether nothing is ahead. -/
def nothing : Look := List.isEmpty

/-- The tokens after the first one.  A lifetime counts as one. -/
def skip : List Token → List Token
  | .sign c joined :: .word text :: rest =>
    if c = '\'' && joined then rest else .word text :: rest
  | _ :: rest => rest
  | [] => []

/-- The same question about the tokens after the first one. -/
def second (look : Look) : Look := fun tokens => !tokens.isEmpty && look (skip tokens)

/-- The same question about the tokens after the first two. -/
def third (look : Look) : Look := second (second look)

/-- Whether one of several answers is yes. -/
def any (looks : List Look) : Look := fun tokens => looks.any (· tokens)

/-- Whether one sign is ahead and no longer sign that begins like it. -/
def onlySign (text : String) (longer : List String) : Look := fun tokens =>
  sign text tokens && !longer.any fun other => sign other tokens

end Look

/-! ## Rules for single tokens -/

namespace Parse

/-- The answer to a look. -/
def sees (look : Look) : Parse Bool := do return look (← get).rest

/-- Fails always. -/
def reject {α : Type} : Parse α := fun _ => none

/-- Fails unless the condition holds. -/
def require (condition : Bool) : Parse Unit := if condition then pure () else reject

/-- Adds tokens to the spelling. -/
def spell (tokens : List Token) : Parse Unit :=
  modify fun c => { c with spelled := tokens.reverse ++ c.spelled }

/-- Moves on by some tokens without spelling them. -/
def advance (count : Nat) : Parse Unit := modify fun c => { c with rest := c.rest.drop count }

/-- Reads one token or group as it stands. -/
def token : Parse Token := do
  match (← get).rest with
  | t :: _ => advance 1; spell [t]; return t
  | [] => reject

/-- Reads all tokens ahead as they stand. -/
def everything : Parse Unit :=
  modify fun c => { c with rest := [], spelled := c.rest.reverse ++ c.spelled }

/-- Reads a sign. -/
def sign (text : String) : Parse Unit := do
  require (← sees (Look.sign text))
  advance text.length
  spell (signs text)

/-- Reads a sign and leaves it out of the spelling. -/
def silentSign (text : String) : Parse Unit := do
  require (← sees (Look.sign text))
  advance text.length

/-- Reads the given word. -/
def keyword (text : String) : Parse Unit := do
  require (← sees (Look.word text))
  let _ ← token

/-- Reads any word.  A token that only claims to be a word is none. -/
def anyWord : Parse Text.Word := do
  match ← token with
  | .word text =>
    match Text.Word.ofText? text with
    | some word => return word
    | none => reject
  | _ => reject

/-- Reads a word that can be a name. -/
def name : Parse Text.Word := do
  require (← sees Look.name)
  anyWord

/-- Reads a lifetime. -/
def lifetime : Parse String := do
  require (← sees Look.lifetime)
  let _ ← token
  return (← anyWord).text

/-- Reads a literal.  The sign of a negative number stands on its own in the spelling. -/
def literal : Parse Unit := do
  require (← sees Look.literal)
  match (← get).rest with
  | .sign _ _ :: .literal kind text :: _ => advance 2; spell [.sign '-' false, .literal kind text]
  | _ => let _ ← token

/-- Reads a group with the given brackets, all of whose content the rule has to read. -/
def group {α : Type} (delimiter : Delimiter) (rule : Parse α) : Parse α := do
  let start ← get
  match start.rest with
  | .group other inner :: rest =>
    require (other = delimiter)
    match rule ⟨inner, [], start.hasVerbatim⟩ with
    | some (a, ⟨[], spelled, hasVerbatim⟩) =>
      set (Cursor.mk rest (.group delimiter spelled.reverse :: start.spelled) hasVerbatim)
      return a
    | _ => reject
  | _ => reject

/-- Reads a group of any kind with any content. -/
def anyGroup : Parse (Delimiter × List Token) := do
  match ← token with
  | .group delimiter inner => return (delimiter, inner)
  | _ => reject

/-! ## The spelling of what a rule reads -/

/-- Runs a rule and yields the tokens that it spells beside what it yields. -/
def spelledBy {α : Type} (rule : Parse α) : Parse (α × List Token) := do
  let before := (← get).spelled
  modify fun c => { c with spelled := [] }
  let a ← rule
  let tokens := (← get).spelled.reverse
  modify fun c => { c with spelled := before }
  return (a, tokens)

/-- Runs a rule and yields the tokens that it adds to the spelling beside what it yields. -/
def withSpelling {α : Type} (rule : Parse α) : Parse (α × List Token) := do
  let (a, tokens) ← spelledBy rule
  spell tokens
  return (a, tokens)

/-- Runs a rule, and spells what it reads verbatim if the answer says so. -/
def verbatimIf {α : Type} (isVerbatim : α → Bool) (rule : Parse α) : Parse α := do
  let start ← get
  let a ← rule
  if isVerbatim a then
    modify fun c => { c with
      spelled := (start.rest.take (start.rest.length - c.rest.length)).reverse ++ start.spelled
      hasVerbatim := true }
  return a

/-- Runs a rule and spells what it reads verbatim. -/
def verbatim {α : Type} (rule : Parse α) : Parse α := verbatimIf (fun _ => true) rule

/-! ## Combining rules -/

/-- Reads what the rule reads if the look says so. -/
def optional (look : Look) (rule : Parse Unit) : Parse Bool := do
  if ← sees look then rule; return true else return false

/-- Reads a sign if it is ahead. -/
def optionalSign (text : String) : Parse Bool := optional (Look.sign text) (sign text)

/-- Reads a word if it is ahead. -/
def optionalWord (text : String) : Parse Bool := optional (Look.word text) (keyword text)

/-- What the rule would read, without moving on, if it does not fail. -/
def ahead? {α : Type} (rule : Parse α) : Parse (Option (α × Cursor)) := do return rule (← get)

/-- Reads what the rule reads, and moves on only if it does not fail. -/
def attempt {α : Type} (rule : Parse α) : Parse (Option α) := do
  match ← ahead? rule with
  | some (a, cursor) => set cursor; return some a
  | none => return none

/-- Repeats a rule as long as the look says so.  Each round is expected to read a token, so there
are no more rounds than tokens ahead. -/
def repeatWhile {α : Type} (look : Look) (rule : Parse α) : Parse (List α) := do
  go ((← get).rest.length + 1)
where
  /-- At most the given number of rounds. -/
  go : Nat → Parse (List α)
    | 0 => return []
    | n + 1 => do
      if ← sees look then
        let a ← rule
        return a :: (← go n)
      else return []

/-- Repeats a rule with a state until it answers nothing. -/
def loop {σ : Type} (step : σ → Parse (Option σ)) (start : σ) : Parse σ := do
  go ((← get).rest.length + 1) start
where
  /-- At most the given number of rounds. -/
  go : Nat → σ → Parse σ
    | 0, s => return s
    | n + 1, s => do
      match ← step s with
      | some s => go n s
      | none => return s

/-- Items with a sign between any two, up to the point where the look says that the list has ended.
The sign may also stand after the last item. -/
def separated {α : Type} (sep : String) (ended : Look) (rule : Parse α) : Parse (List α) := do
  go ((← get).rest.length + 1)
where
  /-- At most the given number of items. -/
  go : Nat → Parse (List α)
    | 0 => return []
    | n + 1 => do
      if ← sees ended then return []
      else
        let a ← rule
        if ← sees ended then return [a]
        else
          sign sep
          return a :: (← go n)

/-- Items with commas between them that fill all of a group. -/
def commas {α : Type} (rule : Parse α) : Parse (List α) := separated "," Look.nothing rule

/-- Items joined by a sign that goes on as long as the sign is ahead. -/
def chained {α : Type} (sep : String) (ended : Look) (rule : Parse α) : Parse (List α) := do
  go ((← get).rest.length + 1)
where
  /-- At most the given number of items. -/
  go : Nat → Parse (List α)
    | 0 => return []
    | n + 1 => do
      if ← sees ended then return []
      else
        let a ← rule
        if ← optionalSign sep then return a :: (← go n) else return [a]

end Parse

end StructMatch.Source
