import StructMatch.Code.Expression
import StructMatch.Source.Syntax

/-!
# The layout of paths and types

Paths and types as documents.  A line may end inside of brackets that hold a list, and before the
`+` and the `=` that belong to a parameter; nowhere else.
-/

namespace StructMatch.Code

open Layout Source

/-- The attributes in the given tokens, each of which a line may end after. -/
def attributeDocs : List Token → List Doc
  | .sign '#' _ :: .group .square inner :: rest =>
    .text ("#[" ++ flatAll (macroTokens .start true inner) ++ "]") :: spaceLine ::
      attributeDocs rest
  | _ => []

/-- A tuple.  A comma follows its only part. -/
def tupleDocs (parts : List (List Doc)) : List Doc :=
  match parts with
  | [part] =>
    [.text "(", .group level true
      (softLine :: part ++ [.text ",", .line { offset := -level }]), .text ")"]
  | parts => [.text "("] ++ arguments parts ++ [.text ")"]

/-- The parameters of a function type.  After what stands for any number of them there is no comma.
-/
def functionParameters (items : List (List Doc)) (isOpen : Bool) : List Doc :=
  match items, isOpen with
  | _ :: _, true =>
    [.group level true (softLine :: (items.intersperse [.text ",", spaceLine]).flatten ++
      [.line { offset := -level }])]
  | _, _ => arguments items

/-- What a parameter says after its name: bounds, the first after a colon, and a preset type. -/
def afterName (bounds : List (List Doc)) (preset : Option (List Doc)) : List Doc :=
  let first :=
    match bounds with
    | [] => []
    | bound :: more => Doc.text ": " :: bound ++ more.flatMap fun b => spaceLine :: .text "+ " :: b
  let last :=
    match preset with
    | none => []
    | some type => spaceLine :: .text "= " :: type
  match first ++ last with
  | [] => []
  | docs => [.group level false docs]

/-- The word before bounds.  A sum of bounds without a word is written with the one for traits. -/
def keywordText : BoundsKeyword → String
  | .impl => "impl "
  | _ => "dyn "

/-- Whether any number of parameters may stand at the end. -/
def endsOpen (parameters : List FunctionParameter) : Bool :=
  match parameters.getLast? with
  | some (.mk _ _ none) => true
  | _ => false

mutual

/-- A segment. -/
def segmentDocs (inExpression : Bool) : Segment → List Doc
  | .mk name arguments => .text name :: argumentsDocs inExpression arguments

/-- The arguments of a segment.  Empty angle brackets are left out. -/
def argumentsDocs (inExpression : Bool) : Arguments → List Doc
  | .none => []
  | .angle _ [] => []
  | .angle _ (a :: as) =>
    let opening := if inExpression then "::<" else "<"
    .text opening :: arguments (argumentDocs a :: argumentDocsAll as) ++ [.text ">"]
  | .call parameters result =>
    let inner :=
      match parameters with
      | [] => [.line { offset := -level }]
      | p :: ps =>
        softLine :: ((typeDocs false p :: typeDocsAll false ps).intersperse
          [.text ",", spaceLine]).flatten ++ [listEnd]
    [.group level true (.text "(" :: inner ++ [.text ")"] ++ resultDocs result)]

/-- Segments with `::` between them. -/
def segmentDocsAll (inExpression : Bool) : List Segment → List Doc
  | [] => []
  | [s] => segmentDocs inExpression s
  | s :: rest => segmentDocs inExpression s ++ .text "::" :: segmentDocsAll inExpression rest

/-- An argument in angle brackets. -/
def argumentDocs : Argument → List Doc
  | .lifetime name => [.text ("'" ++ name)]
  | .type type => typeDocs false type
  | .binding item type => segmentDocs false item ++ .text " = " :: typeDocs false type
  | .constraint item bounds => segmentDocs false item ++ afterName (boundDocsAll bounds) none

/-- Arguments in angle brackets. -/
def argumentDocsAll : List Argument → List (List Doc)
  | [] => []
  | a :: as => argumentDocs a :: argumentDocsAll as

/-- A bound. -/
def boundDocs : Bound → List Doc
  | .lifetime name => [.text ("'" ++ name)]
  | .captures names => [.text ("use<" ++ ", ".intercalate names ++ ">")]
  | .trait isBracketed binder isRelaxed isGlobal segments =>
    List.flatten
      [if isBracketed then [.text "("] else [], binderDocs binder,
        if isRelaxed then [.text "?"] else [], if isGlobal then [.text "::"] else [],
        segmentDocsAll false segments, if isBracketed then [.text ")"] else []]
  | .verbatim => []

/-- Bounds. -/
def boundDocsAll : List Bound → List (List Doc)
  | [] => []
  | b :: bs => boundDocs b :: boundDocsAll bs

/-- A binder, if there is one. -/
def binderDocs : Option (List Parameter) → List Doc
  | none => []
  | some parameters =>
    .text "for<" :: ((parameterDocsAll parameters).intersperse [.text ", "]).flatten ++ [.text "> "]

/-- A parameter of a binder. -/
def parameterDocs : Parameter → List Doc
  | .lifetime attributes name bounds =>
    let bounds := if bounds.isEmpty then "" else ": '" ++ " + '".intercalate bounds
    attributeDocs attributes ++ [.text ("'" ++ name ++ bounds)]
  | .type attributes name bounds preset =>
    attributeDocs attributes ++ .text name :: afterName (boundDocsAll bounds) (presetDocs preset)
  | .constant attributes name type preset =>
    let preset :=
      match preset with
      | none => []
      | some tokens => .text " = " :: constantDocs tokens
    attributeDocs attributes ++ .text ("const " ++ name ++ ": ") :: typeDocs false type ++ preset

/-- The parameters of a binder. -/
def parameterDocsAll : List Parameter → List (List Doc)
  | [] => []
  | p :: ps => parameterDocs p :: parameterDocsAll ps

/-- The type that a parameter has if none is given. -/
def presetDocs : Option TypeTree → Option (List Doc)
  | none => none
  | some type => some (typeDocs false type)

/-- A parameter of a function type. -/
def functionParameterDocs : FunctionParameter → List Doc
  | .mk attributes name type =>
    let name :=
      match name with
      | none => []
      | some name => [Doc.text (name ++ ": ")]
    let type :=
      match type with
      | none => [Doc.text "..."]
      | some type => typeDocs false type
    attributeDocs attributes ++ name ++ type

/-- The parameters of a function type. -/
def functionParameterDocsAll : List FunctionParameter → List (List Doc)
  | [] => []
  | p :: ps => functionParameterDocs p :: functionParameterDocsAll ps

/-- The result of a function, if it is given. -/
def resultDocs : Option TypeTree → List Doc
  | none => []
  | some type => .text " -> " :: typeDocs false type

/-- A type, which may be written like an expression. -/
def typeDocs (inExpression : Bool) : TypeTree → List Doc
  | .path isGlobal segments =>
    (if isGlobal then [Doc.text "::"] else []) ++ segmentDocsAll inExpression segments
  | .qualified type isGlobal trait segments =>
    let trait :=
      match trait with
      | [] => []
      | s :: rest =>
        .text (if isGlobal then " as ::" else " as ") :: segmentDocsAll false (s :: rest)
    .text "<" :: typeDocs false type ++ trait ++ .text ">::" ::
      segmentDocsAll inExpression segments
  | .macroCall isGlobal segments delimiter tokens =>
    (if isGlobal then [Doc.text "::"] else []) ++ segmentDocsAll inExpression segments ++
      .text "!" :: macroGroup delimiter tokens
  | .bracketed type => .text "(" :: typeDocs inExpression type ++ [.text ")"]
  | .tuple types => tupleDocs (typeDocsAll inExpression types)
  | .slice type => .text "[" :: typeDocs inExpression type ++ [.text "]"]
  | .array type length =>
    .text "[" :: typeDocs inExpression type ++ [.text ("; " ++ expressionText length ++ "]")]
  | .reference lifetime isMutable type =>
    let lifetime :=
      match lifetime with
      | none => ""
      | some name => "'" ++ name ++ " "
    .text ("&" ++ lifetime ++ if isMutable then "mut " else "") :: typeDocs inExpression type
  | .pointer isMutable type =>
    .text (if isMutable then "*mut " else "*const ") :: typeDocs inExpression type
  | .function binder isUnsafe interface parameters result =>
    let interface :=
      match interface with
      | none => ""
      | some none => "extern "
      | some (some name) => "extern " ++ name ++ " "
    List.flatten
      [binderDocs binder, [.text ((if isUnsafe then "unsafe " else "") ++ interface ++ "fn(")],
        functionParameters (functionParameterDocsAll parameters) (endsOpen parameters),
        [.text ")"], resultDocs result]
  | .bounds keyword bounds _ =>
    .text (keywordText keyword) :: ((boundDocsAll bounds).intersperse [.text " + "]).flatten
  | .never => [.text "!"]
  | .inferred => [.text "_"]
  | .constant tokens => constantDocs tokens
  | .verbatim => []

/-- Types. -/
def typeDocsAll (inExpression : Bool) : List TypeTree → List (List Doc)
  | [] => []
  | t :: ts => typeDocs inExpression t :: typeDocsAll inExpression ts

end

/-- A path. -/
def pathDocs (inExpression : Bool) (path : SourcePath) : List Doc :=
  typeDocs inExpression (.path path.isGlobal path.segments)

end StructMatch.Code
