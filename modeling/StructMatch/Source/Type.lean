import StructMatch.Source.Path

/-!
# Types, type parameters and conditions on types

A type is a path, a reference, a pointer, a tuple, an array, a function, a macro, or a sum of
bounds. Where a type is followed by `+` for another reason, as after `->`, it cannot be a sum.
-/

namespace StructMatch.Source

open Parse

/-- The bounds that a type may name. -/
def plainBounds : BoundForms := ⟨false, false⟩

/-- The bounds that a type parameter may have. -/
def parameterBounds : BoundForms := ⟨false, true⟩

/-- The rest of a sum of bounds, each of which follows a `+`. -/
def restOfSum (g : Grammar) : Parse (List Bound) :=
  repeatWhile (Look.sign "+") do
    sign "+"
    bound g plainBounds

/-- Bounds after their keyword, of which one at least has to be a trait. -/
def traitBounds (g : Grammar) (keyword : BoundsKeyword) (sums : Bool) (forms : BoundForms) :
    Parse TypeTree := do
  let (bounds, goesOn) ← bounds g sums forms
  require (bounds.any Bound.isTrait)
  return .bounds keyword bounds goesOn

/-- The interface of a function that is not written in the language itself, if it is named. -/
def externalInterface : Parse (Option String) := do
  keyword "extern"
  optionalText

/-- The interface, if one is ahead. -/
def optionalInterface : Parse (Option (Option String)) := do
  if ← sees (Look.word "extern") then return some (← externalInterface) else return none

/-- The type of a function after its binder. -/
def functionType (g : Grammar) (binder : Option (List Parameter)) : Parse TypeTree := do
  let isUnsafe ← optionalWord "unsafe"
  let interface ← optionalInterface
  keyword "fn"
  let parameters ← group .round parameters
  return .function binder isUnsafe interface parameters (← returnType g.typeNoSum)
where
  /-- The parameters, the last of which may stand for any number. -/
  parameters : Parse (List FunctionParameter) := do
    if ← sees Look.nothing then return []
    else
      let first ← parameter true
      let more ← if ← optionalSign "," then commas (parameter false) else pure []
      return first :: more
  /-- A parameter, or what stands for any number of them. -/
  parameter (isFirst : Bool) : Parse FunctionParameter := do
    let (_, attributes) ← withSpelling (outerAttributes g)
    let named : Look := fun ts =>
      Look.any [.name, .word "_"] ts && Look.second (Look.sign ":") ts
    if ← sees fun ts => named ts && Look.third (Look.sign "...") ts then
      let name ← anyWord
      sign ":"
      anyNumber
      return .mk attributes (some name.text) none
    else if ← sees (Look.sign "...") then
      anyNumber
      return .mk attributes none none
    else
      let (name, type?) ← verbatimIf (·.2.isNone) (single isFirst)
      return .mk attributes name (some (type?.getD .verbatim))
  /-- The sign for any number of parameters, which ends them. -/
  anyNumber : Parse Unit := do
    sign "..."
    let _ ← optionalSign ","
    require (← sees Look.nothing)
  /-- The name and the type of a parameter for one argument.  A receiver that may be changed has no
  type of its own. -/
  single (isFirst : Bool) : Parse (Option String × Option TypeTree) := do
    let mutableReceiver : Look := fun ts =>
      isFirst && Look.word "mut" ts && Look.second (Look.word "self") ts
    let startsMutable ← sees mutableReceiver
    if startsMutable then keyword "mut"
    let isReceiver ← sees fun ts => isFirst && Look.word "self" ts
    let isNamed := (← sees (Look.any [.name, .word "_", fun _ => isReceiver])) &&
      (← sees (Look.second (Look.onlySign ":" ["::"])))
    let name ←
      if isNamed then
        let name ← anyWord
        sign ":"
        pure (some name.text)
      else pure none
    if startsMutable && !isNamed then
      keyword "self"
      return (name, none)
    else if !isReceiver && (← sees mutableReceiver) then
      keyword "mut"
      keyword "self"
      return (name, none)
    else
      let type ← g.type
      return (name, if startsMutable then none else some type)

/-- The only bound of a type that is a sum without a keyword and does not go on. -/
def TypeTree.bareBound? : TypeTree → Option Bound
  | bounds .none [bound] false => some bound
  | _ => none

/-- A group in round brackets: a tuple, a type on its own, or the first bound of a sum.  The
brackets around a bound take the place of those inside. -/
def bracketedType (g : Grammar) (sums : Bool) : Parse TypeTree := do
  let isBound ← sees fun
    | .group .round inner :: _ => Look.sign "?" inner
    | _ => false
  if isBound then
    let (bound, _) ← group .round (traitBound g plainBounds)
    return .bounds .none (bound.inBrackets :: (← restOfSum g)) false
  else
    let (tree, tokens) ← spelledBy (group .round content)
    let isSum := sums && (← sees (Look.sign "+"))
    match isSum, tree with
    | true, .bracketed (.path isGlobal segments) =>
      spell tokens
      return .bounds .none (.trait true none false isGlobal segments :: (← restOfSum g)) false
    | true, .bracketed type =>
      match type.bareBound?, tokens with
      | some bound, [.group _ inner] =>
        spell (if isInBrackets bound then inner else tokens)
        return .bounds .none (bound.inBrackets :: (← restOfSum g)) false
      | _, _ =>
        spell tokens
        return tree
    | _, _ =>
      spell tokens
      return tree
where
  /-- What stands between the brackets. -/
  content : Parse TypeTree := do
    if ← sees Look.nothing then return .tuple []
    else if ← sees Look.lifetime then
      return .bracketed (← traitBounds g .none true plainBounds)
    else
      let first ← g.type
      if ← optionalSign "," then return .tuple (first :: (← commas g.type))
      else return .bracketed first
  /-- Whether a bound has brackets of its own. -/
  isInBrackets : Bound → Bool
    | .trait isBracketed .. => isBracketed
    | _ => false

/-- A type that begins with a path: the path itself, a macro, or a sum of bounds.  Before a macro a
binder is left out of the spelling. -/
def pathType (g : Grammar) (sums : Bool) (binder : Option (List Parameter))
    (binderTokens : List Token) : Parse TypeTree := do
  let (tree, tokens) ← spelledBy (qualifiedPath g false)
  if ← macroAfter tree then
    spell tokens
    sign "!"
    let (delimiter, inner) ← anyGroup
    match tree with
    | .path isGlobal segments => return .macroCall isGlobal segments delimiter inner
    | _ => return tree
  else
    spell (binderTokens ++ tokens)
    match tree with
    | .path isGlobal segments =>
      if binder.isSome || (sums && (← sees (Look.sign "+"))) then
        let (more, goesOn) ← if sums then moreBounds g plainBounds else pure ([], false)
        return .bounds .none (.trait false binder false isGlobal segments :: more) goesOn
      else return tree
    | _ => return tree

/-- A type.  Whether it may be a sum of bounds is given. -/
def type (g : Grammar) (sums : Bool) : Parse TypeTree := do
  let (binder, binderTokens) ← spelledBy (optionalBinder g)
  if binder.isSome then
    let goesOn := Look.any [.name, .word "fn", .word "unsafe", .word "extern", .word "super",
      .word "self", .word "Self", .word "crate"]
    require (← sees goesOn)
  if ← sees (Look.group .round) then bracketedType g sums
  else if ← sees (Look.any [.word "fn", .word "unsafe", .word "extern"]) then
    spell binderTokens
    functionType g binder
  else if ← sees (Look.any [.name, .word "super", .word "self", .word "Self", .word "crate",
      .sign "::", .sign "<"]) then
    pathType g sums binder binderTokens
  else if ← sees (Look.word "dyn") then
    let (tree, isStarred) ← verbatimIf (·.2) do
      keyword "dyn"
      let isStarred ← optionalSign "*"
      return (← traitBounds g .dyn sums plainBounds, isStarred)
    return if isStarred then .verbatim else tree
  else if ← sees (Look.group .square) then
    group .square do
      let item ← g.type
      if ← optionalSign ";" then
        let (_, length) ← withSpelling g.expression
        return .array item length
      else return .slice item
  else if ← optionalSign "*" then
    let isMutable ← optionalWord "mut"
    if !isMutable then keyword "const"
    return .pointer isMutable (← g.typeNoSum)
  else if ← optionalSign "&" then
    let lifetime? ← if ← sees Look.lifetime then pure (some (← lifetime)) else pure none
    let isMutable ← optionalWord "mut"
    return .reference lifetime? isMutable (← g.typeNoSum)
  else if ← optionalSign "!" then return .never
  else if ← optionalWord "impl" then traitBounds g .impl sums ⟨true, true⟩
  else if ← optionalWord "_" then return .inferred
  else
    require (← sees Look.lifetime)
    traitBounds g .none true plainBounds

/-! ## Type parameters -/

/-- Bounds after a colon, if there is one.  A colon without bounds is left out of the spelling. -/
def boundsAfterColon {α : Type} (ended : Look) (bound : Parse α) : Parse (Option (List α)) := do
  if ← sees (Look.sign ":") then
    silentSign ":"
    let (bounds, tokens) ← spelledBy (chained "+" ended bound)
    if !bounds.isEmpty then spell (signs ":" ++ tokens)
    return some bounds
  else return none

/-- A parameter of a declaration: a lifetime, a constant or a type. -/
def parameter (g : Grammar) (nameless : Bool) : Parse Parameter := do
  let (_, attributes) ← withSpelling (outerAttributes g)
  if ← sees Look.lifetime then
    let name ← lifetime
    let bounds ← boundsAfterColon (Look.any [.sign ",", .sign ">"]) lifetime
    return .lifetime attributes name (bounds.getD [])
  else if ← optionalWord "const" then
    let name ← name
    sign ":"
    let type ← g.type
    let preset ← if ← optionalSign "=" then pure (some (← constantArgument g)) else pure none
    return .constant attributes name.text type preset
  else if ← sees fun ts => nameless && Look.word "_" ts then
    return .type attributes (← anyWord).text [] none
  else
    let name ← name
    let bounds ←
      boundsAfterColon (Look.any [.sign ",", .sign ">", .sign "="]) (bound g parameterBounds)
    let preset ← if ← optionalSign "=" then pure (some (← g.type)) else pure none
    return .type attributes name.text (bounds.getD []) preset

/-- Whether the parameters of a declaration are ahead, and not a type in angle brackets. -/
def Look.parameters : Look := fun ts =>
  Look.sign "<" ts &&
    (Look.second (Look.any [.sign ">", .sign "#", .word "const"]) ts ||
      (Look.second (Look.any [.lifetime, .name]) ts &&
        Look.third (Look.any [.sign ">", .sign ",", .onlySign ":" ["::"], .sign "="]) ts))

/-- The parameters of a declaration in angle brackets, if there are brackets.  Brackets without
parameters are left out of the spelling. -/
def typeParameters (g : Grammar) : Parse (Option (List Parameter)) := do
  if ← sees (Look.sign "<") then
    let isLifetime : Parameter → Bool
      | .lifetime .. => true
      | _ => false
    let (parameters, tokens) ← spelledBy (angleList isLifetime (g (.parameter true)))
    if !parameters.isEmpty then spell tokens
    return some parameters
  else return none

/-- The end of the conditions on types. -/
def Look.conditionsEnd : Look :=
  Look.any [.nothing, .group .curly, .sign ",", .sign ";", .onlySign ":" ["::"], .sign "="]

/-- The conditions on types after `where`, and whether there is that word.  Without conditions the
word is left out of the spelling. -/
def conditions (g : Grammar) : Parse Bool := do
  if ← sees (Look.word "where") then
    let (conditions, tokens) ← spelledBy do
      keyword "where"
      require !(← sees Look.parameters)
      chained "," Look.conditionsEnd condition
    if !conditions.isEmpty then spell tokens
    return true
  else return false
where
  /-- One condition. -/
  condition : Parse Unit := do
    if ← sees fun ts => Look.lifetime ts && Look.second (Look.sign ":") ts then
      let _ ← lifetime
      sign ":"
      let _ ← chained "+" Look.conditionsEnd lifetime
    else
      let _ ← optionalBinder g
      let _ ← g.type
      sign ":"
      let _ ← chained "+" Look.conditionsEnd (bound g parameterBounds)

end StructMatch.Source
