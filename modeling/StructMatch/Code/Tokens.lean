import StructMatch.Code.Words

/-!
# The tokens of a matcher file

The code of a matcher as a sequence of tokens, before it is laid out on lines.  It names the items
of the runtime by their full path, so that a struct may share a name with one of them.
-/

namespace StructMatch.Code

open Source

/-- Several words. -/
def words (texts : List String) : List Token := texts.map .word

/-- Tokens in round brackets. -/
def round (tokens : List Token) : List Token := [.group .round tokens]

/-- Tokens in square brackets. -/
def square (tokens : List Token) : List Token := [.group .square tokens]

/-- Tokens in curly brackets. -/
def curly (tokens : List Token) : List Token := [.group .curly tokens]

/-- A single word. -/
def word (text : String) : List Token := [.word text]

/-- An item of the runtime. -/
def runtimeItem (runtime : List Token) (name : String) : List Token :=
  runtime ++ signs "::" ++ word name

/-- A comment that documents the next item, as an attribute. -/
def commentTokens (text : String) : List Token :=
  signs "#" ++ square (word "doc" ++ signs "=" ++ [textLiteral text])

/-- The lints that are allowed in the file. -/
def lintTokens (naming : Naming) : List Token :=
  let always := [word "dead_code", word "clippy" ++ signs "::" ++ word "new_without_default"]
  let lints :=
    match naming with
    | .snake => always
    | .camel => always ++ [word "non_snake_case"]
  signs "#" ++ signs "!" ++ square (word "allow" ++ round (lints.intersperse (signs ",")).flatten)

/-- The struct with the registry as its only field. -/
def structTokens (spec : MatcherSpec) (runtime : List Token) : List Token :=
  let field := List.flatten
    [word spec.registryField.name, signs ":", runtimeItem runtime "BeanPropertyMatcher",
      signs "<", word spec.registryField.target, signs ">", signs ","]
  List.flatten
    [commentTokens (structComment spec), words ["pub", "struct"], word spec.className,
      curly field]

/-- The constructor. -/
def constructorTokens (spec : MatcherSpec) (runtime : List Token) : List Token :=
  let field := List.flatten
    [word spec.registryField.name, signs ":", runtimeItem runtime "BeanPropertyMatcher",
      signs "::", word "new", round [], signs ","]
  List.flatten
    [words ["pub", "fn"], word spec.constructorName, round [], signs "->", word "Self",
      curly (word "Self" ++ curly field)]

/-- The fluent method for a property. -/
def propertyMethodTokens (spec : MatcherSpec) (runtime : List Token) (method : PropertyMethod) :
    List Token :=
  let parameters := List.flatten
    [words ["mut", "self"], signs ",", word method.parameter, signs ":", word "M"]
  let bound := List.flatten
    [words ["where", "M"], signs ":", runtimeItem runtime "Matcher", signs "<", word "dyn",
      runtimeItem runtime "PropertyValue", signs ">", signs "+", lifetimeTokens "static",
      signs ","]
  let reader := List.flatten
    [signs "|", word "item", signs "|", signs "&", word "item", signs ".",
      word (fieldWord method.property)]
  let registration := List.flatten
    [word "self", signs ".", word spec.registryField.name, signs ".", word "with",
      round (List.flatten
        [[textLiteral method.property], signs ",", reader, signs ",", word method.parameter]),
      signs ";"]
  List.flatten
    [words ["pub", "fn"], word method.name, signs "<", word "M", signs ">", round parameters,
      signs "->", word "Self", bound, curly (registration ++ word "self")]

/-- A method of the matching protocol. -/
def protocolMethodTokens (spec : MatcherSpec) (runtime : List Token) (method : ProtocolMethod) :
    List Token :=
  let description := List.flatten
    [signs ",", word "description", signs ":", signs "&", word "mut",
      runtimeItem runtime "Description"]
  let item := List.flatten [signs ",", word "item", signs ":", signs "&", word spec.target.name]
  let call := fun arguments : List String => List.flatten
    [runtimeItem runtime "Matcher", signs "::", signs "<", word spec.target.name, signs ">",
      signs "::", word method.operation.delegate,
      round (List.flatten
        [signs "&", word "self", signs ".", word method.field,
          arguments.flatMap fun a => signs "," ++ word a])]
  let head := word "fn" ++ word method.operation.methodName
  let receiver := signs "&" ++ word "self"
  match method.operation with
  | .describeTo =>
    head ++ round (receiver ++ description) ++ curly (call ["description"] ++ signs ";")
  | .matchesSafely =>
    List.flatten [head, round (receiver ++ item), signs "->", word "bool", curly (call ["item"])]
  | .describeMismatchSafely =>
    List.flatten
      [head, round (receiver ++ item ++ description),
        curly (call ["item", "description"] ++ signs ";")]

/-- A text constant of the matcher. -/
def constantTokens (name value : String) : List Token :=
  List.flatten
    [word "const", word name, signs ":", signs "&", lifetimeTokens "static", word "str",
      signs "=", [textLiteral value], signs ";"]

/-- The whole file, for the path of the runtime as it is spelled. -/
def fileTokens (spec : MatcherSpec) (runtime : List Token) : List Token :=
  let class_ := word spec.className
  let useTokens := List.flatten
    [words ["use", "super"], signs "::", word spec.target.name, signs ";"]
  let ownMethods := List.flatten
    [word "impl", class_, curly (constructorTokens spec runtime ++
      spec.propertyMethods.flatMap (propertyMethodTokens spec runtime))]
  let protocol := List.flatten
    [word "impl", runtimeItem runtime "TypeSafeMatcher", signs "<", word spec.target.name,
      signs ">", word "for", class_,
      curly (spec.protocolMethods.flatMap (protocolMethodTokens spec runtime))]
  let provenance := List.flatten
    [word "impl", runtimeItem runtime "GeneratedMatcher", word "for", class_,
      curly (constantTokens "GENERATED_BY" spec.provenance.generatedBy ++
        constantTokens "BASED_ON" spec.provenance.basedOn)]
  let factory := List.flatten
    [commentTokens (factoryComment spec), words ["pub", "fn"], word spec.factory.name, round [],
      signs "->", word spec.factory.returns,
      curly (List.flatten
        [word spec.factory.returns, signs "::", word spec.constructorName, round []])]
  List.flatten
    [lintTokens spec.naming, useTokens, structTokens spec runtime, ownMethods, protocol,
      provenance, factory]

end StructMatch.Code
