import StructMatch.Source.Pattern

/-!
# Expressions

An expression is a row of operands with operators between them.  Comparisons cannot be chained, a
range cannot be an operand, and where a block may follow, as after `if`, a path followed by a curly
bracket is no struct literal.
-/

namespace StructMatch.Source

open Parse

/-! ## Operators -/

/-- The operators between two operands.  One that begins like another comes after it. -/
def binaryOperators : List (String × Precedence) :=
  [("<<=", .assignment), (">>=", .assignment), ("+=", .assignment), ("-=", .assignment),
    ("*=", .assignment), ("/=", .assignment), ("%=", .assignment), ("^=", .assignment),
    ("&=", .assignment), ("|=", .assignment), ("&&", .and), ("||", .or), ("<<", .shift),
    (">>", .shift), ("==", .comparison), ("<=", .comparison), ("!=", .comparison),
    (">=", .comparison), ("+", .sum), ("-", .sum), ("*", .product), ("/", .product),
    ("%", .product), ("^", .bitXor), ("&", .bitAnd), ("|", .bitOr), ("<", .comparison),
    (">", .comparison)]

/-- The operator ahead between two operands. -/
def operatorAhead? : Parse (Option (String × Precedence)) := do
  let tokens := (← get).rest
  return binaryOperators.find? fun operator => Look.sign operator.1 tokens

/-- How strongly the operator ahead binds, be it a range, an assignment or a cast. -/
def precedenceAhead : Parse Precedence := do
  match ← operatorAhead? with
  | some (_, precedence) => return precedence
  | none =>
    if ← sees (Look.onlySign "=" ["=>"]) then return .assignment
    else if ← sees (Look.sign "..") then return .range
    else if ← sees (Look.word "as") then return .cast
    else return .loosest

/-- The right operand of an operator with the given precedence. -/
def rightOperand (g : Grammar) (literals : Bool) (precedence : Precedence) :
    Parse ExpressionKind := do
  let first ← g (.operand literals)
  loop (fun kind => do
    let next ← precedenceAhead
    if precedence.rank < next.rank || (next = precedence && precedence = .assignment) then
      let before := (← get).rest.length
      let kind ← g (.operators literals next kind)
      if (← get).rest.length = before then return none else return some kind
    else return none) first

/-- The places at which a range has no upper bound. -/
def Look.rangeWithoutEnd (literals : Bool) : Look := fun ts =>
  Look.any [.nothing, .sign ",", .sign ";", .onlySign "." [".."], .sign "?", .sign "=>", .sign "=",
    .sign "+", .sign "/", .sign "%", .sign "^", .sign ">", .sign "<=", .sign "!=", .sign "-=",
    .sign "*=", .sign "&=", .sign "|=", .sign "<<=", .word "as"] ts ||
  (!literals && Look.group .curly ts)

/-- A range from its sign on. -/
def rangeFromSign (g : Grammar) (literals : Bool) : Parse Unit := do
  if ← sees (Look.sign "..=") then
    sign "..="
    let _ ← rightOperand g literals .range
  else
    require !(← sees (Look.sign "..."))
    sign ".."
    if !(← sees (Look.rangeWithoutEnd literals)) then
      let _ ← rightOperand g literals .range

/-- One operator after an operand with what follows it, if it binds strongly enough. -/
def operatorStep (g : Grammar) (literals : Bool) (base : Precedence) (left : ExpressionKind) :
    Parse (Option ExpressionKind) := do
  if left = .range then return none
  else
    match ← operatorAhead? with
    | some (operator, precedence) =>
      if precedence.rank < base.rank then return none
      else
        require !(precedence = .comparison && left = .comparison)
        sign operator
        let _ ← rightOperand g literals precedence
        return some (if precedence = .comparison then .comparison else .other)
    | none =>
      if base.rank ≤ Precedence.assignment.rank &&
          (← sees (Look.onlySign "=" ["==", "=>"])) then
        sign "="
        let _ ← rightOperand g literals .assignment
        return some .other
      else if base.rank ≤ Precedence.range.rank && (← sees (Look.sign "..")) then
        rangeFromSign g literals
        return some .range
      else if base.rank ≤ Precedence.cast.rank && (← sees (Look.word "as")) then
        keyword "as"
        let _ ← g.typeNoSum
        let goesOn := Look.any [.onlySign "." [".."], .sign "?", .group .square, .group .round]
        require !(← sees goesOn)
        return some .other
      else return none

/-- The operators after an operand that bind at least as strongly as given. -/
def operators (g : Grammar) (literals : Bool) (base : Precedence) (left : ExpressionKind) :
    Parse ExpressionKind :=
  loop (operatorStep g literals base) left

/-- An expression: an operand and all operators after it. -/
def expression (g : Grammar) (literals : Bool) : Parse ExpressionKind := do
  let first ← g (.operand literals)
  g (.operators literals .loosest first)

/-! ## Operands -/

/-- Whether an expression may begin. -/
def Look.expressionStart : Look :=
  Look.any [fun ts => Look.anyWord ts && !Look.word "as" ts, .group .round, .group .square,
    .group .curly, .literal, .onlySign "!" ["!="], .onlySign "-" ["-=", "->"],
    .onlySign "*" ["*="], .onlySign "|" ["|="], .onlySign "&" ["&="], .sign "..",
    .onlySign "<" ["<=", "<<="], .sign "::", .lifetime, .sign "#"]

/-- An expression before a block. -/
def expressionBeforeBlock (g : Grammar) : Parse Unit := do
  let _ ← g (.expression false)

/-- A choice between blocks. -/
def ifExpression (g : Grammar) : Parse Unit := do
  branch
  let _ ← loop (fun () => do
    if ← sees (Look.word "else") then
      keyword "else"
      if ← sees (Look.word "if") then
        branch
        return some ()
      else
        g.block
        return none
    else return none) ()
where
  /-- One condition with its block. -/
  branch : Parse Unit := do
    keyword "if"
    expressionBeforeBlock g
    g.block

/-- An arm of a match. -/
def matchArm (g : Grammar) : Parse Unit := do
  let _ ← outerAttributes g
  let _ ← alternatives g
  if ← optionalWord "if" then
    let _ ← g.expression
  sign "=>"
  let form ← g .statementExpression
  if form.kind ≠ .block && !(← sees Look.nothing) then sign ","
  else
    let _ ← optionalSign ","

/-- A choice by patterns. -/
def matchExpression (g : Grammar) : Parse Unit := do
  keyword "match"
  expressionBeforeBlock g
  group .curly do
    let _ ← innerAttributes g
    let _ ← repeatWhile (fun ts => !Look.nothing ts) (matchArm g)

/-- A loop over values. -/
def forExpression (g : Grammar) : Parse Unit := do
  keyword "for"
  let _ ← alternatives g
  keyword "in"
  expressionBeforeBlock g
  bodyBlock g

/-- A loop with a condition. -/
def whileExpression (g : Grammar) : Parse Unit := do
  keyword "while"
  expressionBeforeBlock g
  bodyBlock g

/-- A loop without end. -/
def loopExpression (g : Grammar) : Parse Unit := do
  keyword "loop"
  bodyBlock g

/-- A loop or a block that has a label. -/
def labeledExpression (g : Grammar) : Parse Unit := do
  let _ ← lifetime
  sign ":"
  if ← sees (Look.word "while") then whileExpression g
  else if ← sees (Look.word "for") then forExpression g
  else if ← sees (Look.word "loop") then loopExpression g
  else bodyBlock g

/-- Whether the binder of a closure is ahead. -/
def Look.closureBinder : Look := fun ts => Look.word "for" ts && Look.second Look.parameters ts

/-- An expression that ends a statement by itself, if one is ahead. -/
def blockExpression? (g : Grammar) : Parse (Option ExpressionKind) := do
  if ← sees (Look.word "if") then
    ifExpression g
    return some .block
  else if ← sees (Look.word "while") then
    whileExpression g
    return some .block
  else if ← sees fun ts => Look.word "for" ts && !Look.closureBinder ts then
    forExpression g
    return some .block
  else if ← sees (Look.word "loop") then
    loopExpression g
    return some .block
  else if ← sees (Look.word "match") then
    matchExpression g
    return some .block
  else if ← sees fun ts => Look.word "try" ts && Look.second (Look.group .curly) ts then
    keyword "try"
    g.block
    return some .block
  else if ← sees (Look.word "unsafe") then
    keyword "unsafe"
    bodyBlock g
    return some .block
  else if ← sees fun ts => Look.word "const" ts && Look.second (Look.group .curly) ts then
    keyword "const"
    bodyBlock g
    return some .block
  else if ← sees (Look.group .curly) then
    bodyBlock g
    return some .block
  else return none

/-- A block without the attributes that it begins with. -/
def withoutInnerAttributes : Token → Token
  | .group delimiter inner => .group delimiter (go inner)
  | token => token
where
  /-- The tokens after the attributes. -/
  go : List Token → List Token
    | .sign '#' _ :: .sign '!' _ :: .group .square _ :: rest => go rest
    | tokens => tokens

/-- A range after its attributes.  If it has any, it is put in brackets, since without them the
attributes would belong to its lower bound. -/
def rangeAfter (attributes tokens : List Token) : List Token :=
  if attributes.isEmpty then tokens else attributes ++ [.group .round tokens]

/-- A parameter of a closure.  If it has no type, its attributes replace those inside of a block
that is evaluated beforehand, and a verbatim pattern is spelled without attributes. -/
def closureParameter (g : Grammar) : Parse Unit := do
  let (_, attributes) ← spelledBy (outerAttributes g)
  let (kind, tokens) ← spelledBy (g .pattern)
  if ← sees (Look.sign ":") then
    spell (attributes ++ tokens)
    sign ":"
    let _ ← g.type
  else
    match kind with
    | .constant => spell (attributes ++ tokens.map withoutInnerAttributes)
    | .verbatim => spell tokens
    | .range _ => spell (rangeAfter attributes tokens)
    | .other => spell (attributes ++ tokens)

/-- A function without a name. -/
def closure (g : Grammar) (literals : Bool) : Parse Unit := do
  let _ ← optionalBinder g
  let _ ← optionalWord "const"
  let _ ← optionalWord "static"
  let _ ← optionalWord "async"
  let _ ← optionalWord "move"
  sign "|"
  let _ ← separated "," (Look.sign "|") (closureParameter g)
  sign "|"
  if ← sees (Look.sign "->") then
    sign "->"
    let _ ← g.type
    g.block
  else
    let _ ← g (.expression literals)

/-- The fields of a struct literal. -/
def fieldValues (g : Grammar) : Parse Unit := do
  let _ ← commas do
    if ← sees (Look.sign "..") then
      sign ".."
      if !(← sees Look.nothing) then
        let _ ← g.expression
      require (← sees Look.nothing)
    else
      let _ ← outerAttributes g
      let isNamed ← member
      if (← sees (Look.sign ":")) || !isNamed then
        sign ":"
        let _ ← g.expression

/-- An operand that begins with a path: the path, a macro or a struct literal. -/
def pathExpression (g : Grammar) (literals : Bool) : Parse ExpressionKind := do
  let path ← qualifiedPath g true
  if ← macroAfter path then
    sign "!"
    let (delimiter, _) ← anyGroup
    return .macroCall delimiter
  else
    if literals && (← sees (Look.group .curly)) then group .curly (fieldValues g)
    return .other

/-- What leaves a block, with the value it takes along. -/
def jump (g : Grammar) (literals : Bool) : Parse Unit := do
  if ← optionalWord "break" then
    if ← sees Look.lifetime then
      let _ ← lifetime
      require !(← sees (Look.sign ":"))
    if (← sees Look.expressionStart) && (literals || !(← sees (Look.group .curly))) then
      let _ ← g.expression
  else if ← optionalWord "continue" then
    if ← sees Look.lifetime then
      let _ ← lifetime
  else
    if ← sees (Look.word "return") then keyword "return" else keyword "yield"
    if ← sees Look.expressionStart then
      let _ ← g.expression

/-- An expression that only the compiler itself has a use for.  It is spelled verbatim. -/
def internalExpression (g : Grammar) : Parse ExpressionKind :=
  verbatim do
    if ← optionalWord "become" then
      let _ ← g.expression
    else
      keyword "builtin"
      sign "#"
      let _ ← name
      group .round everything
    return .verbatim

/-- The part of an operand that the things after it apply to. -/
def atom (g : Grammar) (literals : Bool) : Parse ExpressionKind := do
  let isAsyncBlock : Look := fun ts => Look.word "async" ts &&
    (Look.second (Look.group .curly) ts ||
      (Look.second (Look.word "move") ts && Look.third (Look.group .curly) ts))
  let isClosure : Look := fun ts =>
    Look.any [.sign "|", .word "move", Look.closureBinder, .word "static"] ts ||
    (Look.word "const" ts && !Look.second (Look.group .curly) ts) ||
    (Look.word "async" ts && Look.second (Look.any [.sign "|", .word "move"]) ts)
  let isPath : Look := fun ts =>
    Look.pathAhead ts || (Look.word "try" ts && Look.second (Look.any [.sign "!", .sign "::"]) ts)
  if ← sees (Look.any [fun ts => !Look.sign "-" ts && Look.literal ts]) then
    literal
    return .other
  else if ← sees isAsyncBlock then
    keyword "async"
    let _ ← optionalWord "move"
    g.block
    return .other
  else if ← sees isClosure then
    closure g literals
    return .other
  else if ← sees fun ts => Look.word "become" ts ||
      (Look.word "builtin" ts && Look.second (Look.sign "#") ts) then
    internalExpression g
  else if ← sees isPath then pathExpression g literals
  else if ← sees (Look.group .round) then
    group .round do
      let _ ← commas g.expression
    return .other
  else if ← sees (Look.any [.word "break", .word "continue", .word "return", .word "yield"]) then
    jump g literals
    return .other
  else if ← sees (Look.group .square) then
    group .square do
      if !(← sees Look.nothing) then
        let _ ← g.expression
        if ← optionalSign ";" then
          let _ ← g.expression
        else if ← optionalSign "," then
          let _ ← commas g.expression
    return .other
  else if ← sees (Look.word "let") then
    keyword "let"
    let _ ← alternatives g
    sign "="
    let left ← g (.operand literals)
    let _ ← g (.operators literals .comparison left)
    return .other
  else if ← sees (Look.sign "..") then
    rangeFromSign g literals
    return .range
  else if ← sees (Look.word "_") then
    keyword "_"
    return .other
  else if ← sees Look.lifetime then
    labeledExpression g
    return .block
  else
    match ← blockExpression? g with
    | some kind => return kind
    | none => reject

/-- The calls, fields and indices after an operand. -/
def trailers (g : Grammar) (first : ExpressionKind) : Parse ExpressionKind :=
  loop (fun kind => do
    if ← sees (Look.group .round) then
      group .round do
        let _ ← commas g.expression
      return some .other
    else if kind ≠ .range && (← sees (Look.onlySign "." [".."])) then
      sign "."
      field
      return some .other
    else if ← sees (Look.group .square) then
      group .square do
        let _ ← g.expression
      return some .other
    else if kind ≠ .range && (← sees (Look.sign "?")) then
      sign "?"
      return some .other
    else return none) first
where
  /-- A field, an awaited value or a method call after its dot.  Two places with a dot between them
  are read as one number. -/
  field : Parse Unit := do
    match (← get).rest with
    | .literal .decimal text :: _ =>
      let parts := text.splitOn "."
      match (parts.filter (!·.isEmpty)).mapM placeOf? with
      | none => reject
      | some places =>
        advance 1
        spell ((places.map fun place => [placeToken place]).intersperse (signs ".")).flatten
        if parts.getLast? = some "" then
          spell (signs ".")
          single
    | _ => single
  /-- A single field, an awaited value or a method call. -/
  single : Parse Unit := do
    if ← sees (Look.word "await") then keyword "await"
    else
      let isNamed ← member
      let hasArguments ← sees (Look.sign "::")
      if isNamed && hasArguments then
        sign "::"
        let _ ← angleArguments g
      if isNamed && (hasArguments || (← sees (Look.group .round))) then
        group .round do
          let _ ← commas g.expression

/-- One of the signs that may stand before an operand, if one is ahead. -/
def signBefore : Parse Bool := do
  let tokens := (← get).rest
  match ["*", "!", "-"].find? fun text => Look.sign text tokens with
  | some text =>
    sign text
    return true
  | none => return false

/-- An operand: signs before it, the operand itself, and what applies to it after it.  The
attributes of a verbatim operand are spelled with it, and a range has none. -/
def operand (g : Grammar) (literals : Bool) : Parse ExpressionKind :=
  verbatimIf (· = .verbatim) do
    let attributes ← outerAttributes g
    if ← sees (Look.sign "&") then
      sign "&"
      let isRaw ← sees fun ts =>
        Look.word "raw" ts && Look.second (Look.any [.word "mut", .word "const"]) ts
      if isRaw then
        keyword "raw"
        let _ ← anyWord
      else
        let _ ← optionalWord "mut"
      let _ ← g (.operand literals)
      return .other
    else if ← signBefore then
      let _ ← g (.operand literals)
      return .other
    else
      let first ← atom g literals
      let kind ← trailers g first
      require (kind ≠ .range || attributes.isEmpty)
      return kind

/-- The first operand of an expression at the beginning of a statement, and whether operators may
follow it.  An operand that ends a statement by itself is continued by a dot or a question mark
only. -/
def firstOperand (g : Grammar) : Parse (ExpressionKind × Bool) := do
  let early? ←
    if ← sees Look.lifetime then
      labeledExpression g
      pure (some .block)
    else blockExpression? g
  match early? with
  | some kind =>
    if ← sees (Look.any [.onlySign "." [".."], .sign "?"]) then
      return (← trailers g kind, true)
    else return (kind, false)
  | none => return (← g (.operand true), true)

/-- An expression at the beginning of a statement or an arm.  Attributes before a verbatim operand
are left out of the spelling. -/
def statementExpression (g : Grammar) : Parse StatementForm := do
  let (_, attributes) ← spelledBy (outerAttributes g)
  let ((first, goesOn), tokens) ← spelledBy (firstOperand g)
  let startsVerbatim := first = .verbatim
  spell <|
    if startsVerbatim then tokens
    else if first = .range then rangeAfter attributes tokens
    else attributes ++ tokens
  if goesOn then
    let kind ← g (.operators true .loosest first)
    return ⟨kind, startsVerbatim⟩
  else return ⟨first, startsVerbatim⟩

end StructMatch.Source
