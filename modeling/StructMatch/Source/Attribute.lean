import StructMatch.Source.Grammar

/-!
# Attributes

An attribute is written in square brackets after `#`, and one that belongs to what encloses it has
`!` in between.  Its content is a plain path, alone, with a group of any tokens, or with a value.
-/

namespace StructMatch.Source

open Parse

/-- The words that a plain path consists of. -/
def Look.plainSegment : Look :=
  Look.any [.name, .word "super", .word "self", .word "Self", .word "crate"]

/-- A path whose segments have no arguments. -/
def plainPath : Parse SourcePath := do
  let isGlobal ← optionalSign "::"
  let names ← go ((← get).rest.length + 1)
  return ⟨isGlobal, names.map Segment.plain⟩
where
  /-- At least one segment and at most the given number. -/
  go : Nat → Parse (List String)
    | 0 => reject
    | n + 1 => do
      require (← sees Look.plainSegment)
      let name := (← anyWord).text
      if ← optionalSign "::" then return name :: (← go n) else return [name]

/-- Whether the path is one given word. -/
def SourcePath.isWord (path : SourcePath) (word : String) : Bool :=
  !path.isGlobal && path.segments.map Segment.name = [word]

/-- Whether a group is ahead that holds one given word. -/
def Look.groupOfWord (word : String) : Look
  | .group _ [.word text] :: _ => text = word
  | _ => false

/-- The value of an attribute: a literal, or any expression. -/
def attributeValue (g : Grammar) : Parse Unit := do
  let alone : Parse Unit := do
    literal
    require (← sees Look.nothing)
  match ← attempt alone with
  | some () => return
  | none =>
    require !(← sees fun ts => Look.sign "#" ts && Look.second (Look.group .square) ts)
    let _ ← g.expression

/-- The content of an attribute. -/
def attributeContent (g : Grammar) : Parse Attribute := do
  let path ←
    if ← sees (Look.word "unsafe") then
      let word ← anyWord
      pure ⟨false, [Segment.plain word.text]⟩
    else plainPath
  let isTestOnly := path.isWord "cfg" && (← sees (Look.groupOfWord "test"))
  if ← sees (Look.any [.group .round, .group .square, .group .curly]) then
    let _ ← anyGroup
    return if isTestOnly then .testOnly else .other
  else if ← optionalSign "=" then
    attributeValue g
    return .other
  else return .other

/-- The attributes before what they belong to. -/
def outerAttributes (g : Grammar) : Parse (List Attribute) :=
  repeatWhile (Look.sign "#") do
    sign "#"
    group .square (attributeContent g)

/-- The attributes inside of what they belong to. -/
def innerAttributes (g : Grammar) : Parse (List Attribute) :=
  repeatWhile (fun ts => Look.sign "#" ts && Look.second (Look.sign "!") ts) do
    sign "#"
    sign "!"
    group .square (attributeContent g)

/-- A block that may begin with attributes of its own. -/
def bodyBlock (g : Grammar) : Parse Unit :=
  group .curly do
    let _ ← innerAttributes g
    g .statements

end StructMatch.Source
