import StructMatch.Source.Literal
import StructMatch.Source.Type

/-!
# Patterns

A pattern names what it binds, or describes it by a path, a literal, a range, or by patterns for its
parts.
-/

namespace StructMatch.Source

open Parse

/-- Alternatives of a pattern, before the first of which a bar may stand. -/
def alternatives (g : Grammar) : Parse PatternKind := do
  let leading ← optionalSign "|"
  let kind ← g .pattern
  let more := Look.onlySign "|" ["||", "|="]
  if leading || (← sees more) then
    let _ ← repeatWhile more do
      sign "|"
      g .pattern
    return .other
  else return kind

/-- The sign of a range in a pattern, and whether the range includes its upper bound.  The sign
`...` is spelled like `..=`. -/
def patternRangeSign : Parse Bool := do
  if ← optionalSign "..=" then return true
  else if ← sees (Look.sign "...") then
    silentSign "..."
    spell (signs "..=")
    return true
  else
    sign ".."
    return false

/-- The places at which a range in a pattern has no upper bound. -/
def Look.rangeEnd : Look :=
  Look.any [.nothing, .sign "|", .sign "=", .onlySign ":" ["::"], .sign ",", .sign ";", .word "if"]

/-- A path ahead of an operator or a bracket. -/
def Look.pathAhead : Look :=
  Look.any [.name, .sign "::", .sign "<", .word "self", .word "Self", .word "super", .word "crate"]

/-- A block that is evaluated beforehand. -/
def constantBlock (g : Grammar) : Parse Unit := do
  keyword "const"
  bodyBlock g

/-- The bound of a range in a pattern, if there is one. -/
def rangeBound (g : Grammar) : Parse Bool := do
  if ← sees Look.rangeEnd then return false
  else
    if ← sees Look.literal then literal
    else if ← sees Look.pathAhead then
      let _ ← qualifiedPath g true
    else if ← sees (Look.word "const") then constantBlock g
    else reject
    return true

/-- A range in a pattern from its sign on.  Answers whether it has an upper bound, without which it
cannot include that. -/
def restOfRange (g : Grammar) : Parse Bool := do
  let closed ← patternRangeSign
  let bounded ← rangeBound g
  require (bounded || !closed)
  return bounded

/-- The kind of a range in a pattern that has a lower bound, from its sign on. -/
def rangeFromLower (g : Grammar) : Parse PatternKind := do
  return .range !(← restOfRange g)

/-- The spelling of a place. -/
def placeToken (place : Nat) : Token := .literal .integer (toString place)

/-- A field of a struct by its name or its place. -/
def member : Parse Bool := do
  if ← sees Look.name then
    let _ ← name
    return true
  else
    match (← get).rest with
    | .literal .integer text :: _ =>
      match placeOf? text with
      | some place =>
        advance 1
        spell [placeToken place]
        return false
      | none => reject
    | _ => reject

/-- The fields of a struct pattern. -/
def fieldPatterns (g : Grammar) : Parse Unit := do
  let _ ← commas do
    let _ ← outerAttributes g
    if ← sees (Look.sign "..") then
      sign ".."
      require (← sees Look.nothing)
    else
      let _ ← verbatimIf id field
where
  /-- One field.  Answers whether it is boxed, which is spelled verbatim. -/
  field : Parse Bool := do
    let boxed ← optionalWord "box"
    let byReference ← optionalWord "ref"
    let isMutable ← optionalWord "mut"
    if boxed || byReference || isMutable then
      let _ ← name
    else
      let isNamed ← member
      if (← sees (Look.sign ":")) || !isNamed then
        sign ":"
        let _ ← alternatives g
    return boxed

/-- A pattern that begins with a path. -/
def pathPattern (g : Grammar) : Parse PatternKind := do
  let path ← qualifiedPath g true
  if ← macroAfter path then
    sign "!"
    let _ ← anyGroup
    return .other
  else if ← sees (Look.group .curly) then
    group .curly (fieldPatterns g)
    return .other
  else if ← sees (Look.group .round) then
    group .round do
      let _ ← commas (alternatives g)
    return .other
  else if ← sees (Look.sign "..") then rangeFromLower g
  else return .other

/-- Whether a pattern begins with a path and not with a name that it binds. -/
def Look.pathPattern : Look := fun ts =>
  (Look.name ts && Look.second
    (Look.any [.sign "::", .sign "!", .group .curly, .group .round, .sign ".."]) ts) ||
  (Look.word "self" ts && Look.second (Look.sign "::") ts) ||
  Look.any [.sign "::", .sign "<", .word "Self", .word "super", .word "crate"] ts

/-- A pattern without alternatives. -/
def pattern (g : Grammar) : Parse PatternKind := do
  if ← sees Look.pathPattern then pathPattern g
  else if ← sees (Look.word "box") then
    verbatim do
      keyword "box"
      let _ ← g .pattern
      return .verbatim
  else if ← sees (Look.any [.sign "-", .literal, .word "const"]) then
    let isConstant ← sees (Look.word "const")
    require (← rangeBound g)
    if ← sees (Look.sign "..") then rangeFromLower g
    else return if isConstant then .constant else .other
  else if ← sees (Look.onlySign ".." ["..."]) then
    return if ← restOfRange g then .range true else .other
  else
    if ← sees (Look.word "_") then keyword "_"
    else if ← sees (Look.any [.word "ref", .word "mut", .word "self", .name]) then
      let _ ← optionalWord "ref"
      let _ ← optionalWord "mut"
      if ← sees (Look.word "self") then keyword "self"
      else
        let _ ← name
      if ← optionalSign "@" then
        let _ ← g .pattern
    else if ← sees (Look.sign "&") then
      sign "&"
      let _ ← optionalWord "mut"
      let _ ← g .pattern
    else if ← sees (Look.group .round) then
      group .round do
        let _ ← commas (alternatives g)
    else
      group .square do
        let _ ← commas do
          require ((← alternatives g) ≠ .range true)
    return .other

end StructMatch.Source
