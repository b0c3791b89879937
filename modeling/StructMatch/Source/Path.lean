import StructMatch.Source.Attribute

/-!
# Paths, their arguments, and bounds

A segment of a path is a name, after which arguments may stand in angle brackets.  In a type they
follow the name directly; in an expression, where `<` would be an operator, they follow `::`.  In
the spelling of a list in angle brackets the lifetimes come first, wherever they were written.
-/

namespace StructMatch.Source

open Parse

/-- The text literal, if one is ahead. -/
def optionalText : Parse (Option String) := do
  if ← sees Look.textLiteral then
    match ← token with
    | .literal _ text => return some text
    | _ => return none
  else return none

/-- A constant as an argument, which is a literal, a name or a block, and the tokens that spell it.
-/
def constantArgument (g : Grammar) : Parse (List Token) := do
  let (_, tokens) ← withSpelling do
    if ← sees Look.literal then literal
    else if ← sees Look.name then
      let _ ← name
    else bodyBlock g
  return tokens

/-- A list in angle brackets.  In the spelling the items that are lifetimes come first, and a comma
is added between two items where moving one has left none. -/
def angleList {α : Type} (isLifetime : α → Bool) (item : Parse α) : Parse (List α) := do
  sign "<"
  let ended := Look.sign ">"
  let items ← repeatWhile (fun ts => !ended ts) do
    let (a, tokens) ← spelledBy item
    if ← sees ended then return (a, tokens, false)
    else
      silentSign ","
      return (a, tokens, true)
  let (lifetimes, others) := items.partition fun item => isLifetime item.1
  spellItems true (lifetimes ++ others)
  sign ">"
  return (lifetimes ++ others).map (·.1)
where
  /-- Spells the items with the commas after them, and adds one where it is missing between two. -/
  spellItems (separate : Bool) : List (α × List Token × Bool) → Parse Unit
    | [] => return
    | (_, tokens, comma) :: rest => do
      if !separate then spell (signs ",")
      spell tokens
      if comma then spell (signs ",")
      spellItems comma rest

/-! ## Segments -/

/-- Arguments between angle brackets. -/
def angleArguments (g : Grammar) : Parse (List Argument) :=
  angleList (fun
    | .lifetime _ => true
    | _ => false) g.argument

/-- A segment of a path. -/
def segment (g : Grammar) (inExpression : Bool) : Parse Segment := do
  if ← sees (Look.any [.word "super", .word "self", .word "crate", .word "try"]) then
    return Segment.plain (← anyWord).text
  else
    let word ← if ← sees (Look.word "Self") then anyWord else name
    let direct ← sees (Look.onlySign "<" ["<=", "<<="])
    let turbofish ← sees fun ts => Look.sign "::" ts && Look.third (Look.sign "<") ts
    if (!inExpression && direct) || turbofish then
      let marked ← optionalSign "::"
      return .mk word.text (.angle marked (← angleArguments g))
    else return Segment.plain word.text

/-- The segments of a path after its first one. -/
def moreSegments (g : Grammar) (inExpression : Bool) : Parse (List Segment) :=
  repeatWhile (fun ts => Look.sign "::" ts && !Look.third (Look.group .round) ts) do
    sign "::"
    segment g inExpression

/-- A path. -/
def path (g : Grammar) (inExpression : Bool) : Parse SourcePath := do
  let isGlobal ← optionalSign "::"
  let first ← segment g inExpression
  let more ← moreSegments g inExpression
  return ⟨isGlobal, first :: more⟩

/-- A path that may begin with a type in angle brackets. -/
def qualifiedPath (g : Grammar) (inExpression : Bool) : Parse TypeTree := do
  if ← sees (Look.sign "<") then
    sign "<"
    let type ← g.type
    let trait : SourcePath ← if ← optionalWord "as" then path g false else pure ⟨false, []⟩
    sign ">"
    sign "::"
    let first ← segment g inExpression
    let more ← repeatWhile (Look.sign "::") do
      sign "::"
      segment g inExpression
    return .qualified type trait.isGlobal trait.segments (first :: more)
  else
    let path ← path g inExpression
    return .path path.isGlobal path.segments

/-- Whether a macro call goes on after the given path. -/
def macroAfter (tree : TypeTree) : Parse Bool := do
  return tree.path?.any SourcePath.isPlain && (← sees (Look.onlySign "!" ["!="]))

/-! ## Bounds -/

/-- The parameters that a binder such as `for<'a>` introduces. -/
def binder (g : Grammar) : Parse (List Parameter) := do
  keyword "for"
  sign "<"
  let parameters ← separated "," (Look.sign ">") (g (.parameter false))
  sign ">"
  return parameters

/-- A binder, if one is ahead. -/
def optionalBinder (g : Grammar) : Parse (Option (List Parameter)) := do
  if ← sees (Look.word "for") then return some (← binder g) else return none

/-- The type after an arrow, if one is ahead. -/
def returnType (type : Parse TypeTree) : Parse (Option TypeTree) := do
  if ← optionalSign "->" then return some (← type) else return none

/-- Whether arguments in round brackets are ahead, maybe after `::`. -/
def Look.callArguments : Look :=
  Look.any [.group .round, fun ts => Look.sign "::" ts && Look.third (Look.group .round) ts]

/-- Which forms of bounds a place admits beside traits and lifetimes. -/
structure BoundForms where
  captures : Bool
  constants : Bool

/-- A trait as a bound, with its binder, its question mark and its arguments in round brackets, and
whether the bound is one on constants, which `const` or `[const]` says. -/
def traitBound (g : Grammar) (forms : BoundForms) : Parse (Bound × Bool) := do
  let bound ← optionalBinder g
  let isConstant ←
    if ← optional (Look.group .square) (group .square (keyword "const")) then pure true
    else optionalWord "const"
  require (forms.constants || !isConstant)
  let isRelaxed ← optionalSign "?"
  let bound ← if bound.isNone && isRelaxed then optionalBinder g else pure bound
  let path ← path g false
  let path ←
    if (path.segments.getLast?.any Segment.isPlain) && (← sees Look.callArguments) then
      if ← sees (Look.sign "::") then silentSign "::"
      let parameters ← group .round (commas g.type)
      let result ← returnType g.typeNoSum
      pure (path.withArguments (.call parameters result))
    else pure path
  require !(bound.isSome && isRelaxed)
  return (.trait false bound isRelaxed path.isGlobal path.segments, isConstant)

/-- One bound of a type.  A bound on constants is spelled verbatim. -/
def bound (g : Grammar) (forms : BoundForms) : Parse Bound := do
  if ← sees Look.lifetime then
    return .lifetime (← lifetime)
  else if ← sees (Look.word "use") then
    keyword "use"
    let captures ← angleList (·.1) do
      if ← sees Look.lifetime then
        return (true, "'" ++ (← lifetime))
      else
        require (← sees (Look.any [.word "Self", .name]))
        return (false, (← anyWord).text)
    require forms.captures
    return .captures (captures.map (·.2))
  else
    let (bound, isConstant) ← verbatimIf (·.2) do
      if ← sees (Look.group .round) then
        let (bound, isConstant) ← group .round (traitBound g forms)
        return (bound.inBrackets, isConstant)
      else traitBound g forms
    return if isConstant then .verbatim else bound

/-- Whether a sum of bounds goes on after a `+`. -/
def Look.boundAfterPlus (forms : BoundForms) : Look := fun ts =>
  Look.any [.anyWord, .sign "::", .sign "?", .lifetime, .group .round] ts ||
  (forms.constants && Look.group .square ts)

/-- The bounds of a sum after its first one, and whether a `+` stands after the last. -/
def moreBounds (g : Grammar) (forms : BoundForms) : Parse (List Bound × Bool) := do
  let (bounds, goesOn) ← loop (fun (bounds, goesOn) => do
    if !goesOn && (← sees (Look.sign "+")) then
      sign "+"
      if ← sees (Look.boundAfterPlus forms) then
        let bound ← bound g forms
        return some (bound :: bounds, false)
      else return some (bounds, true)
    else return none) (([] : List Bound), false)
  return (bounds.reverse, goesOn)

/-- Bounds, which may form a sum or not, and whether a `+` stands after the last. -/
def bounds (g : Grammar) (sums : Bool) (forms : BoundForms) : Parse (List Bound × Bool) := do
  let first ← bound g forms
  let (more, goesOn) ← if sums then moreBounds g forms else pure ([], false)
  return (first :: more, goesOn)

/-! ## Arguments -/

/-- A type or a constant as an argument. -/
def typeOrConstant (g : Grammar) : Parse TypeTree := do
  if ← sees (Look.any [.literal, .group .curly]) then return .constant (← constantArgument g)
  else g.type

/-- An argument in angle brackets. -/
def argument (g : Grammar) : Parse Argument := do
  if ← sees fun ts => Look.lifetime ts && !Look.second (Look.sign "+") ts then
    return .lifetime (← lifetime)
  else
    let type ← typeOrConstant g
    match type with
    | .path false [item] =>
      if ← optionalSign "=" then return .binding item (← typeOrConstant g)
      else if ← optionalSign ":" then
        return .constraint item
          (← chained "+" (Look.any [.sign ",", .sign ">"]) (bound g ⟨false, true⟩))
      else return .type type
    | _ => return .type type

end StructMatch.Source
