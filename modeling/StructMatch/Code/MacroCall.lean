import StructMatch.Code.Lines
import StructMatch.Source.Token

/-!
# The tokens of a macro call

What a macro call means is up to the macro, so its tokens are laid out by what they look like: there
is no blank inside of a path, before a comma, around a dot, and between a name and the brackets
after it, and a blank between any two other tokens.  A line may end at each blank.
-/

namespace StructMatch.Code

open Layout Source

/-- What a token looks like from the tokens before it. -/
inductive MacroPlace where
  | start
  /-- After the mark of a variable. -/
  | dollar
  /-- After a repetition, of which a separator may be read. -/
  | repetition (separated : Bool)
  /-- After the mark of an attribute. -/
  | pound
  | dot
  /-- After the first or the second half of `::`. -/
  | colon (isDouble : Bool)
  | name
  /-- After the name of a macro with its mark. -/
  | call
  /-- After round or square brackets. -/
  | brackets
  | other
deriving DecidableEq

/-- The words that are no names in a macro call. -/
def macroKeywords : List String :=
  ["as", "async", "await", "box", "break", "const", "continue", "crate", "dyn", "else", "enum",
    "extern", "fn", "for", "if", "impl", "in", "let", "loop", "macro", "match", "mod", "move",
    "mut", "pub", "ref", "return", "static", "struct", "super", "trait", "type", "unsafe", "use",
    "where", "while", "yield"]

/-- Whether a token at a place is set apart from the token before, and the place after it. -/
def MacroPlace.step (place : MacroPlace) (token : Token) : Bool × MacroPlace :=
  match place, token with
  | dollar, .word _ => (false, other)
  | dollar, .group .round _ => (false, repetition false)
  | repetition false, .word _ | repetition false, .literal _ _ => (false, repetition true)
  | repetition false, .sign c false =>
    (false, if "+*?".toList.contains c then other else repetition true)
  | repetition false, .sign _ true => (false, repetition false)
  | repetition true, .sign '+' _ | repetition true, .sign '*' _ => (false, other)
  | pound, .sign '!' _ => (false, pound)
  | pound, .group .square _ => (false, other)
  | name, .sign '!' false => (false, call)
  | colon false, .sign ':' _ => (false, colon true)
  | _, .group delimiter _ =>
    if delimiter = .curly then (true, other)
    else if place = name then (false, brackets)
    else if place = call then (false, other)
    else (true, brackets)
  | _, .word text =>
    if macroKeywords.contains text then (true, other)
    else (place ≠ dot && place ≠ colon true, name)
  | _, .literal _ _ => (place ≠ dot, name)
  | _, .sign c joined =>
    if c = ',' || c = ';' then (false, other)
    else if c = '.' then (place ≠ name && place ≠ brackets, dot)
    else if c = ':' && joined then (place ≠ name, colon false)
    else if c = '$' then (true, dollar)
    else if c = '#' then (true, pound)
    else (true, other)

/-- Whether a token is written close to whatever follows it. -/
def isJoined : Token → Bool
  | .sign c joined => joined || c = '$'
  | _ => false

mutual

/-- The layout of one token. -/
def macroToken : Token → List Doc
  | .word text => [.text text]
  | .sign c _ => [.text c.toString]
  | .literal _ text => [.text text]
  | .group .round inner => [.text "("] ++ macroTokens .start true inner ++ [.text ")"]
  | .group .square inner => [.text "["] ++ macroTokens .start true inner ++ [.text "]"]
  | .group .curly inner =>
    match inner with
    | [] => [.text "\x7b\x7d"]
    | _ :: _ =>
      [.text "\x7b", spaceLine] ++ macroTokens .start true inner ++ [spaceLine, .text "\x7d"]

/-- The layout of tokens from a place on, after a token that is joined to them or not. -/
def macroTokens (place : MacroPlace) (joined : Bool) : List Token → List Doc
  | [] => []
  | token :: rest =>
    let (isApart, next) := place.step token
    let gap :=
      if joined then []
      else if isApart then [spaceLine]
      else
        match token with
        | .sign '.' _ => [softLine]
        | _ => []
    gap ++ macroToken token ++ macroTokens next (isJoined token) rest

end

/-- The group of a macro call after its mark. -/
def macroGroup (delimiter : Delimiter) (tokens : List Token) : List Doc :=
  let (opening, closing) := delimiter.brackets true
  let isCurly := delimiter = .curly
  let opening := if isCurly then " \x7b" else opening
  let closing := if isCurly then "\x7d" else closing
  let inner :=
    match tokens with
    | [] => []
    | _ :: _ =>
      [Doc.group level true
        [if isCurly then hardLine else softLine, .group 0 false (macroTokens .start true tokens),
          if isCurly then closingLine else .line { offset := -level }]]
  [.text opening] ++ inner ++ [.text closing]

end StructMatch.Code
