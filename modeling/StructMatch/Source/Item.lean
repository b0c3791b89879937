import StructMatch.Source.Expression

/-!
# Statements and items

A block consists of statements, and a file of items: functions, structs, modules, imports and other
declarations.  Structs and modules are kept; of the others only the form is checked.  A declaration
whose form the language itself refuses, such as a function without a body outside of a trait, is
spelled verbatim.
-/

namespace StructMatch.Source

open Parse

/-! ## Common parts of items -/

/-- How far a declaration is visible, and whether that is said at all. -/
def visibility : Parse Bool := do
  if ← optionalWord "pub" then
    let restricted : Parse Unit := group .round do
      if ← sees (Look.word "in") then
        keyword "in"
        let _ ← plainPath
      else
        require (← sees (Look.any [.word "crate", .word "self", .word "super"]))
        let _ ← anyWord
    let namesPath ← sees fun
      | .group .round inner :: _ => Look.word "in" inner
      | _ => false
    if namesPath then restricted
    else
      let _ ← attempt restricted
    return true
  else return false

/-- Whether a function is ahead, maybe after words that qualify it. -/
def functionAhead (safe : Bool) : Parse Bool := do
  let start : Parse Unit := do
    let _ ← optionalWord "const"
    let _ ← optionalWord "async"
    let isSafe ← if safe then optionalWord "safe" else pure false
    if !isSafe then
      let _ ← optionalWord "unsafe"
    let _ ← optionalInterface
    keyword "fn"
  return (← ahead? start).isSome

/-- The parameter that a method is called on. -/
def receiver (g : Grammar) : Parse Unit := do
  let isReference ← optionalSign "&"
  if isReference && (← sees Look.lifetime) then
    let _ ← lifetime
  let _ ← optionalWord "mut"
  keyword "self"
  if isReference then require !(← sees (Look.sign "::"))
  else if ← optionalSign ":" then
    let _ ← g.type

/-- The parameters of a function.  Only the first may be a receiver, and only the last may stand for
any number. -/
def functionParameters (g : Grammar) : Parse Unit := do
  let _ ← loop (σ := Nat × Bool) (fun (count, goesOn) => do
    if !goesOn || (← sees Look.nothing) then return none
    else
      let _ ← outerAttributes g
      if ← optionalSign "..." then
        let _ ← optionalSign ","
        require (← sees Look.nothing)
        return some (count + 1, false)
      else
        let isReceiver := (← attempt (receiver g)).isSome
        require !(isReceiver && count ≠ 0)
        let isLast ← if isReceiver then pure false else parameter
        if isLast then
          let _ ← optionalSign ","
          require (← sees Look.nothing)
          return some (count + 1, false)
        else if ← sees Look.nothing then return some (count + 1, false)
        else
          sign ","
          return some (count + 1, true)) (0, true)
where
  /-- A parameter with its type.  Answers whether it stands for any number.  A type with arguments
  may stand alone, and in the spelling it gets a name. -/
  parameter : Parse Bool := do
    if ← sees fun ts => Look.name ts && Look.second (Look.sign "<") ts then
      spell (.word "_" :: signs ":")
      let _ ← g.type
      return false
    else
      let _ ← g .pattern
      sign ":"
      if ← optionalSign "..." then return true
      else
        let _ ← g.type
        return false

/-- A function up to its body, and whether it is said to be safe. -/
def signature (g : Grammar) (safe : Bool) : Parse Bool := do
  let _ ← optionalWord "const"
  let _ ← optionalWord "async"
  let isSafe ← if safe then optionalWord "safe" else pure false
  if !isSafe then
    let _ ← optionalWord "unsafe"
  let _ ← optionalInterface
  keyword "fn"
  let _ ← name
  let _ ← typeParameters g
  group .round (functionParameters g)
  let _ ← returnType g.type
  let _ ← conditions g
  return isSafe

/-- The body of a function, or a semicolon in its place.  Answers whether there is a body. -/
def bodyOrSemicolon (g : Grammar) : Parse Bool := do
  if ← optionalSign ";" then return false
  else
    bodyBlock g
    return true

/-- A macro call as an item, which may declare a name or not. -/
def macroItem (named : Bool) : Parse Unit := do
  let _ ← plainPath
  sign "!"
  if named then
    if ← sees (Look.word "try") then keyword "try"
    else if ← sees Look.name then
      let _ ← name
  let (delimiter, _) ← anyGroup
  if delimiter ≠ .curly then sign ";"

/-- Whether a macro call may be ahead. -/
def Look.macroItem : Look :=
  Look.any [.name, .word "self", .word "super", .word "crate", .sign "::"]

/-- Where the conditions of a type declaration stand. -/
structure ConditionPlaces where
  beforeValue : Bool
  afterValue : Bool

/-- What the declaration of a type or a constant holds. -/
structure DeclarationForm where
  hasValue : Bool
  /-- Whether a type has bounds, or a constant has parameters or conditions. -/
  isBounded : Bool

/-- Whether the declaration gives a value and nothing that goes only without one. -/
def DeclarationForm.isDefinition (form : DeclarationForm) : Bool :=
  form.hasValue && !form.isBounded

/-- The declaration of a type from its keyword on. -/
def typeItem (g : Grammar) (places : ConditionPlaces) : Parse DeclarationForm := do
  keyword "type"
  let _ ← name
  let _ ← typeParameters g
  let bounds? ←
    boundsAfterColon (Look.any [.word "where", .sign "=", .sign ";"]) (bound g parameterBounds)
  let conditioned ← if places.beforeValue then conditions g else pure false
  let hasValue ← optionalSign "="
  if hasValue then
    let _ ← g.type
  if places.afterValue && !conditioned then
    let _ ← conditions g
  sign ";"
  return { hasValue, isBounded := bounds?.isSome }

/-- The declaration of a constant from its keyword on. -/
def constantItem (g : Grammar) : Parse DeclarationForm := do
  keyword "const"
  require (← sees (Look.any [.name, .word "_"]))
  let _ ← anyWord
  let parameters? ← typeParameters g
  sign ":"
  let _ ← g.type
  let hasValue ← optionalSign "="
  if hasValue then
    let _ ← g.expression
  let conditioned ← conditions g
  sign ";"
  return { hasValue, isBounded := parameters?.isSome || conditioned }

/-! ## Members of traits and implementations -/

/-- A member of a trait.  Answers whether it is spelled verbatim. -/
def traitMember (g : Grammar) : Parse Bool := do
  let _ ← outerAttributes g
  let isVisible ← visibility
  let isDefault ← optionalWord "default"
  let qualified := isVisible || isDefault
  if ← functionAhead false then
    let _ ← signature g false
    let _ ← bodyOrSemicolon g
    return qualified
  else if ← sees (Look.word "const") then
    let form ← constantItem g
    return qualified || form.isBounded
  else if ← sees (Look.word "type") then
    let _ ← typeItem g ⟨false, true⟩
    return qualified
  else
    require (!qualified && (← sees Look.macroItem))
    macroItem false
    return false

/-- A member of an implementation.  Answers whether it is spelled verbatim. -/
def implementationMember (g : Grammar) : Parse Bool := do
  let _ ← outerAttributes g
  let isVisible ← visibility
  let isDefault ←
    optional (fun ts => Look.word "default" ts && !Look.second (Look.sign "!") ts)
      (keyword "default")
  if ← functionAhead false then
    let _ ← signature g false
    return !(← bodyOrSemicolon g)
  else if ← sees (Look.word "const") then return !(← constantItem g).isDefinition
  else if ← sees (Look.word "type") then return !(← typeItem g ⟨false, true⟩).isDefinition
  else
    require (!isVisible && !isDefault && (← sees Look.macroItem))
    macroItem false
    return false

/-- Declarations between curly brackets.  Each answers whether it is spelled verbatim. -/
def members (g : Grammar) (member : Parse Bool) : Parse Unit :=
  group .curly do
    let _ ← innerAttributes g
    let _ ← repeatWhile (fun ts => !Look.nothing ts) (verbatimIf id member)

/-- A trait from its keyword on.  Only a trait without other qualifiers can be an alias. -/
def traitItem (g : Grammar) (couldBeAlias : Bool) : Parse Unit := do
  keyword "trait"
  let _ ← name
  let _ ← typeParameters g
  if couldBeAlias && (← sees (Look.sign "=")) then
    sign "="
    let _ ← chained "+" (Look.any [.word "where", .sign ";"]) (bound g plainBounds)
    let _ ← conditions g
    sign ";"
  else
    let _ ← boundsAfterColon (Look.any [.word "where", .group .curly]) (bound g parameterBounds)
    let _ ← conditions g
    members g (traitMember g)

/-- An implementation.  Answers whether it is spelled verbatim, as one on constants is and one for a
trait that is no plain path. -/
def implementation (g : Grammar) : Parse Bool := do
  let _ ← optionalWord "default"
  let _ ← optionalWord "unsafe"
  keyword "impl"
  if ← sees Look.parameters then
    let _ ← typeParameters g
  let isConstant ← sees fun ts =>
    Look.word "const" ts || (Look.sign "?" ts && Look.second (Look.word "const") ts)
  if isConstant then
    let _ ← optionalSign "?"
    keyword "const"
  let isNegative ← sees fun ts => Look.sign "!" ts && !Look.second (Look.group .curly) ts
  if isNegative then sign "!"
  let type ← g.type
  let ofTrait ← optionalWord "for"
  require (ofTrait || !isNegative)
  if ofTrait then
    let _ ← g.type
  let _ ← conditions g
  members g (implementationMember g)
  return isConstant || (ofTrait && type.path?.isNone)

/-! ## Structs, enumerations and unions -/

/-- A field with its name, and the spelling of its type.  A field without a name may have a struct
or a union as its type, which is spelled verbatim. -/
def namedField (g : Grammar) : Parse FieldItem := do
  let _ ← outerAttributes g
  let _ ← visibility
  let isNameless ← sees (Look.word "_")
  let fieldName ← if isNameless then anyWord else name
  sign ":"
  let isNested ← sees fun ts => isNameless &&
    (Look.word "struct" ts || (Look.word "union" ts && Look.second (Look.group .curly) ts))
  let (_, tokens) ← spelledBy do
    if isNested then
      verbatim do
        let _ ← anyWord
        let _ ← g .fields
    else
      let _ ← g.type
  spell tokens
  return ⟨fieldName, spellAll tokens⟩

/-- Fields with names between curly brackets. -/
def fields (g : Grammar) : Parse (List FieldItem) := group .curly (commas (namedField g))

/-- Fields without names between round brackets. -/
def tupleFields (g : Grammar) : Parse Unit :=
  group .round do
    let _ ← commas do
      let _ ← outerAttributes g
      let _ ← visibility
      g.type

/-- A struct from its keyword on. -/
def structItem (g : Grammar) (attributes : List Attribute) : Parse StructItem := do
  keyword "struct"
  let structName ← name
  let parameters? ← typeParameters g
  let conditioned ← conditions g
  let fields ←
    if !conditioned && (← sees (Look.group .round)) then
      tupleFields g
      let _ ← conditions g
      sign ";"
      pure []
    else if ← sees (Look.group .curly) then fields g
    else
      sign ";"
      pure []
  return ⟨structName, parameters?.any (!·.isEmpty), attributes.contains .testOnly, fields⟩

/-- An enumeration from its keyword on.  The visibility of a variant is left out of the spelling. -/
def enumItem (g : Grammar) : Parse Unit := do
  keyword "enum"
  let _ ← name
  let _ ← typeParameters g
  let _ ← conditions g
  group .curly do
    let _ ← commas do
      let _ ← outerAttributes g
      let _ ← spelledBy visibility
      let _ ← name
      if ← sees (Look.group .curly) then
        let _ ← fields g
      else if ← sees (Look.group .round) then tupleFields g
      if ← optionalSign "=" then
        let _ ← g.expression

/-- A union from its keyword on. -/
def unionItem (g : Grammar) : Parse Unit := do
  keyword "union"
  let _ ← name
  let _ ← typeParameters g
  let _ ← conditions g
  let _ ← fields g

/-! ## Imports and foreign items -/

/-- The tree of an import.  Answers whether a tree between curly brackets begins at the crate root.
-/
def importTree (g : Grammar) (rooted : Bool) : Parse Bool := do
  if ← sees (Look.any [.name, .word "self", .word "super", .word "crate", .word "try"]) then
    let _ ← anyWord
    if ← optionalSign "::" then g (.importTree false)
    else
      if ← optionalWord "as" then
        require (← sees (Look.any [.name, .word "_"]))
        let _ ← anyWord
      return false
  else if ← optionalSign "*" then return false
  else
    group .curly do
      let answers ← commas do
        let isRooted ← if rooted then optionalSign "::" else pure false
        let holdsRoot ← g (.importTree (rooted && !isRooted))
        return isRooted || holdsRoot
      return answers.any id

/-- An import from its keyword on.  Answers whether it is spelled verbatim. -/
def importItem (g : Grammar) : Parse Bool := do
  keyword "use"
  let isRooted ← optionalSign "::"
  let isVerbatim ← g (.importTree !isRooted)
  sign ";"
  return isVerbatim

/-- A variable that lives as long as the program, of which the type or the value may be missing.
Answers whether one is. -/
def staticItem (g : Grammar) : Parse Bool := do
  keyword "static"
  let _ ← optionalWord "mut"
  let _ ← name
  let isTyped ← optionalSign ":"
  if isTyped then
    let _ ← g.type
  let hasValue ← optionalSign "="
  if hasValue then
    let _ ← g.expression
  require (isTyped || hasValue)
  sign ";"
  return !(isTyped && hasValue)

/-- A foreign variable, and whether it is said to be safe or not, or has a value. -/
def foreignStatic (g : Grammar) : Parse Bool := do
  let isQualified ← optional (Look.any [.word "unsafe", .word "safe"]) do
    let _ ← anyWord
  keyword "static"
  let _ ← optionalWord "mut"
  let _ ← name
  sign ":"
  let _ ← g.type
  let hasValue ← optionalSign "="
  if hasValue then
    let _ ← g.expression
  sign ";"
  return isQualified || hasValue

/-- A declaration of something foreign.  Answers whether it is spelled verbatim. -/
def foreignMember (g : Grammar) : Parse Bool := do
  let _ ← outerAttributes g
  let isVisible ← visibility
  let isStatic ← sees fun ts => Look.word "static" ts ||
    (Look.any [.word "unsafe", .word "safe"] ts && Look.second (Look.word "static") ts)
  if ← functionAhead true then
    let isSafe ← signature g true
    let hasBody ← bodyOrSemicolon g
    return isSafe || hasBody
  else if isStatic then foreignStatic g
  else if ← sees (Look.word "type") then
    let form ← typeItem g ⟨true, true⟩
    return form.hasValue || form.isBounded
  else
    require (!isVisible && (← sees Look.macroItem))
    macroItem false
    return false

/-- Foreign declarations. -/
def foreignItems (g : Grammar) : Parse Unit := do
  let _ ← optionalWord "unsafe"
  let _ ← externalInterface
  members g (foreignMember g)

/-- An import of a whole crate. -/
def externalCrate : Parse Unit := do
  keyword "extern"
  keyword "crate"
  if ← sees (Look.word "self") then keyword "self"
  else
    let _ ← name
  if ← optionalWord "as" then
    require (← sees (Look.any [.name, .word "_"]))
    let _ ← anyWord
  sign ";"

/-! ## Items -/

/-- The items of a module between curly brackets, with its attributes. -/
def inlineModule (g : Grammar) : Parse (List Attribute × List Item) :=
  group .curly do
    let attributes ← innerAttributes g
    let items ← repeatWhile (fun ts => !Look.nothing ts) (g .item)
    return (attributes, items)

/-- A module from its first word on. -/
def moduleItem (g : Grammar) (attributes : List Attribute) : Parse ModuleItem := do
  let _ ← optionalWord "unsafe"
  keyword "mod"
  let moduleName ← if ← sees (Look.word "try") then anyWord else name
  if ← optionalSign ";" then
    return .mk moduleName (attributes.contains .testOnly) none
  else
    let (inner, items) ← inlineModule g
    return .mk moduleName ((attributes ++ inner).contains .testOnly) (some items)

/-- A macro that is declared with a body. -/
def macroDeclaration : Parse Unit := do
  keyword "macro"
  let _ ← name
  if ← sees (Look.group .round) then
    let _ ← anyGroup
  group .curly everything

/-- An item after its attributes, and whether it is spelled verbatim. -/
def itemAfter (g : Grammar) (attributes : List Attribute) : Parse (Item × Bool) := do
  let isVisible ← visibility
  let isTrait : Look := fun ts => Look.word "trait" ts ||
    (Look.word "auto" ts && Look.second (Look.word "trait") ts)
  if ← functionAhead false then
    let _ ← signature g false
    return (.other, !(← bodyOrSemicolon g))
  else if ← sees fun ts => Look.word "extern" ts && Look.second (Look.word "crate") ts then
    externalCrate
    return (.other, false)
  else if ← sees fun ts => Look.word "extern" ts ||
      (Look.word "unsafe" ts && Look.second (Look.word "extern") ts) then
    require !isVisible
    foreignItems g
    return (.other, false)
  else if ← sees (Look.word "use") then return (.other, ← importItem g)
  else if ← sees (Look.word "static") then return (.other, ← staticItem g)
  else if ← sees (Look.word "const") then return (.other, !(← constantItem g).isDefinition)
  else if ← sees fun ts => Look.word "unsafe" ts && Look.second isTrait ts then
    keyword "unsafe"
    let _ ← optionalWord "auto"
    traitItem g false
    return (.other, false)
  else if ← sees fun ts => Look.word "mod" ts ||
      (Look.word "unsafe" ts && Look.second (Look.word "mod") ts) then
    return (.module (← moduleItem g attributes), false)
  else if ← sees (Look.word "type") then
    return (.other, !(← typeItem g ⟨true, false⟩).isDefinition)
  else if ← sees (Look.word "struct") then return (.struct (← structItem g attributes), false)
  else if ← sees (Look.word "enum") then
    enumItem g
    return (.other, false)
  else if ← sees fun ts => Look.word "union" ts && Look.second Look.name ts then
    unionItem g
    return (.other, false)
  else if ← sees isTrait then
    let isAuto ← optionalWord "auto"
    traitItem g !isAuto
    return (.other, false)
  else if ← sees fun ts => Look.word "impl" ts ||
      (Look.word "unsafe" ts && Look.second (Look.word "impl") ts) ||
      (Look.word "default" ts && !Look.second (Look.sign "!") ts) then
    let isVerbatim ← implementation g
    return (.other, isVisible || isVerbatim)
  else if ← sees (Look.word "macro") then
    macroDeclaration
    return (.other, true)
  else
    require (!isVisible && (← sees Look.macroItem))
    macroItem true
    return (.other, false)

/-- An item with its attributes. -/
def item (g : Grammar) : Parse Item := do
  let (item, _) ← verbatimIf (·.2) do
    let attributes ← outerAttributes g
    itemAfter g attributes
  return item

end StructMatch.Source
