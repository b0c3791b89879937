import StructMatch.Source.Item
import StructMatch.Source.Lexer

/-!
# Source files

A source file is read in two steps, from text to tokens and from tokens to items.  A file that one
of the steps refuses is not well formed.
-/

namespace StructMatch.Source

open Parse

/-! ## Statements -/

/-- Whether an item is ahead and not an expression. -/
def Look.itemStart : Look := fun ts =>
  Look.any [.word "pub", .word "extern", .word "use", .word "fn", .word "mod", .word "type",
    .word "struct", .word "enum", .word "trait", .word "impl", .word "macro"] ts ||
  (Look.word "crate" ts && !Look.second (Look.sign "::") ts) ||
  (Look.word "static" ts &&
    (Look.second (Look.word "mut") ts ||
      (Look.second Look.name ts && !(Look.second (Look.word "async") ts &&
        Look.third (Look.any [.word "move", .sign "|"]) ts)))) ||
  (Look.word "const" ts &&
    !(Look.second (Look.any [.group .curly, .word "static", .word "move", .sign "|"]) ts ||
      (Look.second (Look.word "async") ts &&
        !Look.third (Look.any [.word "unsafe", .word "extern", .word "fn"]) ts))) ||
  (Look.word "unsafe" ts && !Look.second (Look.group .curly) ts) ||
  (Look.word "async" ts &&
    Look.second (Look.any [.word "unsafe", .word "extern", .word "fn"]) ts) ||
  (Look.word "union" ts && Look.second Look.name ts) ||
  (Look.word "auto" ts && Look.second (Look.word "trait") ts) ||
  (Look.word "default" ts && Look.second (Look.any [.word "unsafe", .word "impl"]) ts)

/-- A binding, with the block to leave by when its pattern does not fit. -/
def letStatement (g : Grammar) : Parse Unit := do
  keyword "let"
  let _ ← g .pattern
  if ← optionalSign ":" then
    let _ ← g.type
  if ← optionalSign "=" then
    let _ ← g.expression
    let endsInBlock :=
      match (← get).spelled with
      | .group .curly _ :: _ => true
      | _ => false
    if !endsInBlock && (← sees (Look.word "else")) then
      keyword "else"
      g.block
  sign ";"

/-- What a macro call at the beginning of a statement is. -/
inductive MacroStatement where
  /-- A macro that declares something. -/
  | item
  /-- A macro with curly brackets, which ends the statement. -/
  | block
  | expression

/-- What the macro call ahead is, if one is ahead. -/
def macroStatement? : Parse (Option MacroStatement) := do
  match ← ahead? plainPath with
  | none => return none
  | some (_, cursor) =>
    let ts := cursor.rest
    if !Look.sign "!" ts then return none
    else if Look.second (Look.any [.name, .word "try"]) ts then return some .item
    else if Look.second (Look.group .curly) ts &&
        !(Look.third (Look.any [.onlySign "." [".."], .sign "?"]) ts) then return some .block
    else return some .expression

/-- One statement.  Answers whether the block has to end after it.  Attributes before a verbatim
first operand are left out of the spelling, unless they belong to a range. -/
def statement (g : Grammar) : Parse Bool := do
  let start ← get
  let (_, attributes) ← spelledBy (outerAttributes g)
  match ← macroStatement? with
  | some .block =>
    spell attributes
    let _ ← plainPath
    sign "!"
    let _ ← anyGroup
    let _ ← optionalSign ";"
    return false
  | macroCall? =>
    let declares :=
      match macroCall? with
      | some .item => true
      | _ => false
    if ← sees (Look.word "let") then
      spell attributes
      letStatement g
      return false
    else if declares || (← sees Look.itemStart) then
      set start
      let _ ← g .item
      return false
    else
      let (form, tokens) ← spelledBy (g .statementExpression)
      spell <|
        if form.kind = .range then rangeAfter attributes tokens
        else if form.startsVerbatim then tokens
        else attributes ++ tokens
      if ← optionalSign ";" then return false
      else return !(form.kind = .block || form.kind = .macroCall .curly)

/-- The statements of a block up to its end. -/
def statements (g : Grammar) : Parse Unit := do
  let _ ← loop (fun () => do
    let _ ← repeatWhile (Look.sign ";") (sign ";")
    if ← sees Look.nothing then return none
    else
      let mustEnd ← statement g
      if ← sees Look.nothing then return none
      else
        require !mustEnd
        return some ()) ()

/-! ## The grammar -/

/-- The grammar whose rules refer to one another at most as deeply as given. -/
def grammar : Nat → Grammar
  | 0 => fun _ => reject
  | depth + 1 => fun
    | .type sums => Source.type (grammar depth) sums
    | .argument => Source.argument (grammar depth)
    | .parameter nameless => Source.parameter (grammar depth) nameless
    | .expression literals => Source.expression (grammar depth) literals
    | .statementExpression => Source.statementExpression (grammar depth)
    | .operand literals => Source.operand (grammar depth) literals
    | .operators literals base left => Source.operators (grammar depth) literals base left
    | .pattern => Source.pattern (grammar depth)
    | .statements => Source.statements (grammar depth)
    | .item => Source.item (grammar depth)
    | .fields => Source.fields (grammar depth)
    | .importTree rooted => Source.importTree (grammar depth) rooted

/-- Reads all of a token sequence by a rule.  No rule refers to others more than a few times without
reading a token, so the depth is a multiple of the number of tokens. -/
def parseAll? {α : Type} (rule : Grammar → Parse α) (tokens : List Token) : Option α :=
  match rule (grammar (8 * tokenCount tokens + 16)) { rest := tokens } with
  | some (a, ⟨[], _, _⟩) => some a
  | _ => none

/-- The items of a file. -/
def fileItems (g : Grammar) : Parse (List Item) := do
  let _ ← innerAttributes g
  repeatWhile (fun ts => !Look.nothing ts) (g .item)

/-- Whether a file of the given tokens holds something verbatim, if it is well formed. -/
def holdsVerbatim? (tokens : List Token) : Option Bool :=
  parseAll? (fun g => do
    let _ ← fileItems g
    return (← get).hasVerbatim) tokens

/-- The items of a source file, if it is well formed. -/
def readFile? (text : String) : Option (List Item) :=
  let cs := dropInterpreter (dropByteOrderMark text.toList)
  (tokenize? cs).bind (parseAll? fileItems)

/-- A path as its own text, with the tokens that spell it. -/
def readPath? (text : String) : Option (SourcePath × List Token) :=
  (tokenize? text.toList).bind (parseAll? fun g => spelledBy (path g false))

end StructMatch.Source
