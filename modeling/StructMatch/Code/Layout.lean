import StructMatch.Code.TypeLayout
import StructMatch.Code.Words

/-!
# The layout of a matcher file

The same code as a document, with the places where its lines may end.
-/

namespace StructMatch.Code

open Layout Source

/-! ## Paths -/

/-- A segment with one type as its argument. -/
def typedSegment (name argument : String) : Segment :=
  .mk name (.angle true [.type (.path false [Segment.plain argument])])

/-- An item of the runtime in a type. -/
def runtimeType (runtime : SourcePath) (name : String) : List Doc :=
  pathDocs false (runtime.extend [Segment.plain name])

/-- What an expression makes of a path in which a segment chooses an associated type without `::`
before its arguments: the path up to the name, the name of the associated type, the type, and the
segments after it. -/
def unmarkedChoice? : List Segment → Option (List Segment × String × TypeTree × List Segment)
  | [] => none
  | .mk name (.angle false [.binding (.mk choice .none) type]) :: rest =>
    some ([Segment.plain name], choice, type, rest)
  | head :: rest =>
    (unmarkedChoice? rest).map fun (before, choice, type, after) =>
      (head :: before, choice, type, after)

/-- Two operands with an operator between them. -/
def operationDocs (left : List Doc) (operator : String) (right : List Doc) : List Doc :=
  [.group level false (.group (-level) false left :: spaceLine :: .text (operator ++ " ") :: right)]

/-- A call of a function by its path.  If the path chooses an associated type without `::`, it reads
as an assignment between two comparisons, and so it is written. -/
def callDocs (path : SourcePath) (items : List (List Doc)) : List Doc :=
  let call := fun path : SourcePath =>
    List.flatten [pathDocs true path, [.text "("], arguments items, [.text ")"]]
  match unmarkedChoice? path.segments with
  | none => call path
  | some (before, choice, type, after) =>
    [.group 0 false <| List.flatten
      [operationDocs (pathDocs true ⟨path.isGlobal, before⟩) "<" [.text choice],
        [.text " = ", .line { mayEnd := false }],
        operationDocs (typeDocs true type) ">" (call ⟨true, after⟩)]]

/-- Whether a call by a path is written as an assignment, which as a statement needs a semicolon. -/
def callIsAssignment (path : SourcePath) : Bool := (unmarkedChoice? path.segments).isSome

/-! ## Members -/

/-- A function up to its body, without its conditions. -/
def functionHead (name : String) (typeParameters : List String) (parameters : List (List Doc))
    (result : Option (List Doc)) : List Doc :=
  let generic :=
    match typeParameters with
    | [] => []
    | _ :: _ => List.flatten
      [[Doc.text "<"], listItems 0 (typeParameters.map fun t => [Doc.text t]), [.text ">"]]
  let returned :=
    match result with
    | none => []
    | some type => [Doc.group (-level) true (.text " -> " :: type)]
  List.flatten
    [[.text name], generic, [.text "(", .line { mayEnd := false }], listItems 0 parameters,
      [.text ")"], returned]

/-- The field of a value. -/
def fieldDocs (value field : String) : List Doc :=
  [.group level true
    [.group (-level) true [.text value], softLine, .text ("." ++ field)]]

/-- The constructor. -/
def constructorDocs (spec : MatcherSpec) (runtime : SourcePath) : List Doc :=
  let new := runtime.extend [Segment.plain "BeanPropertyMatcher", Segment.plain "new"]
  let literal := [Doc.group level true
    ([.group (-level) false [.text "Self"], .text " \x7b", spaceLine,
      .text (spec.registryField.name ++ ": "), .group 0 false (callDocs new []),
      .line { offset := -level, blanks := 1, before := "," }, .wide]), .text "\x7d"]
  itemWithBody
    (functionHead ("pub fn " ++ spec.constructorName) [] [] (some [.text "Self"]) ++ [.text " "])
    [statementLine literal]

/-- The fluent method for a property. -/
def propertyMethodDocs (spec : MatcherSpec) (runtime : SourcePath) (method : PropertyMethod) :
    List Doc :=
  let head := functionHead ("pub fn " ++ method.name) ["M"]
    [[.text "mut self"], [.text (method.parameter ++ ": M")]] (some [.text "Self"])
  let erased := Doc.text "dyn " :: runtimeType runtime "PropertyValue"
  let bound := List.flatten
    [[.text " "], runtimeType runtime "Matcher", [.text "<"], arguments [erased], [.text ">"],
      [spaceLine, .text "+ 'static"]]
  let conditions : List Doc :=
    [closingLine, .text "where", hardLine, .text "M:", .group level false bound, .text ",",
      closingLine]
  let field := List.flatten
    [[.line { before := "\x7b" }, .text "&"], fieldDocs "item" (fieldWord method.property),
      [.line { offset := -level, after := "\x7d" }]]
  let closure : List Doc :=
    [.group level true
        [.text "|", softLine, .text "item|", .line { offset := -level, blanks := 1 }],
      .line { mayEnd := false }, .group level true field]
  let registered := List.flatten
    [[.text "("], arguments
        [[.text (Text.literal method.property)], closure, [.text method.parameter]],
      [.text ")"]]
  let call : List Doc :=
    [.group level true
        [.group (-level) true [.text "self"], .text ("." ++ spec.registryField.name), softLine,
          .text ".with", .group 0 true registered],
      .text ";"]
  itemWithBody (head ++ conditions) [statementLine call, statementLine [.text "self"]]

/-- A method of the matching protocol. -/
def protocolMethodDocs (spec : MatcherSpec) (runtime : SourcePath) (method : ProtocolMethod) :
    List Doc :=
  let receiver := [Doc.text "&self"]
  let item := [Doc.text ("item: &" ++ spec.target.name)]
  let description := Doc.text "description: &mut " :: runtimeType runtime "Description"
  let path := runtime.extend
    [typedSegment "Matcher" spec.target.name, Segment.plain method.operation.delegate]
  let registry := Doc.text "&" :: fieldDocs "self" method.field
  let build := fun (parameters : List (List Doc)) (result : Option (List Doc))
      (names : List String) (semicolon : Bool) =>
    itemWithBody
      (functionHead ("fn " ++ method.operation.methodName) [] (receiver :: parameters) result ++
        [.text " "])
      [statementLine (callDocs path (registry :: names.map fun n => [.text n]) ++
        if semicolon then [.text ";"] else [])]
  match method.operation with
  | .describeTo => build [description] none ["description"] true
  | .matchesSafely => build [item] (some [.text "bool"]) ["item"] (callIsAssignment path)
  | .describeMismatchSafely => build [item, description] none ["item", "description"] true

/-- A text constant of the matcher. -/
def textConstantDocs (name value : String) : List Doc :=
  [.group 0 true [.text ("const " ++ name ++ ": &'static str = "), .line { mayEnd := false },
    .text (Text.literal value ++ ";")]]

/-! ## The file -/

/-- An implementation up to its body. -/
def implementationHead (trait? : Option (List Doc)) (name : String) : List Doc :=
  let trait :=
    match trait? with
    | none => []
    | some path => path ++ [spaceLine, .text "for "]
  [.group (-level) false ([.group level true [.text "impl"], .text " "] ++ trait ++ [.text name]),
    .text " "]

/-- The whole file, for the path of the runtime. -/
def fileDoc (spec : MatcherSpec) (runtime : SourcePath) : Doc :=
  let provenance := spec.provenance
  let field := [Doc.text (spec.registryField.name ++ ": ")] ++
    pathDocs false (runtime.extend
      [typedSegment "BeanPropertyMatcher" spec.registryField.target]) ++ [.text ","]
  let trait := pathDocs false (runtime.extend
    [typedSegment "TypeSafeMatcher" spec.target.name])
  let constructed :=
    spec.factory.returns ++ "::" ++ spec.constructorName ++ "()"
  let sections : List (List Doc) :=
    [[.text ("use super::" ++ spec.target.name ++ ";")],
      [.text ("///" ++ structComment spec)],
      itemWithBody [.text ("pub struct " ++ spec.className ++ " ")] [field],
      itemWithBody (implementationHead none spec.className)
        (constructorDocs spec runtime ::
          spec.propertyMethods.map (propertyMethodDocs spec runtime)),
      itemWithBody (implementationHead (some trait) spec.className)
        (spec.protocolMethods.map (protocolMethodDocs spec runtime)),
      itemWithBody
        (implementationHead (some (runtimeType runtime "GeneratedMatcher")) spec.className)
        [textConstantDocs "GENERATED_BY" provenance.generatedBy,
          textConstantDocs "BASED_ON" provenance.basedOn],
      [.text ("///" ++ factoryComment spec)],
      itemWithBody
        (functionHead ("pub fn " ++ spec.factory.name) [] []
          (some [.text spec.factory.returns]) ++ [.text " "])
        [statementLine [.text constructed]]]
  .group 0 true
    ([.text ("#![allow(" ++ ", ".intercalate (allowedLints spec.naming) ++ ")]"), spaceLine] ++
      sections.flatMap fun docs => docs ++ [hardLine])

end StructMatch.Code
