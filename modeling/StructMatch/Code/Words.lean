import StructMatch.MatcherSpec
import StructMatch.Source.File

/-!
# The words of a matcher file

Every name of a specification becomes a word of the code, so each has to be an identifier, maybe
marked as a raw one.  A property whose name is a reserved word is read through the raw form of it.
-/

namespace StructMatch.Code

open Source Text

/-- Whether a name can stand in code: it is an identifier, or a raw one with its mark. -/
def isCodeWord (name : String) : Bool :=
  match unraw.afterMark name.toList with
  | some cs => isRawIdentifier (String.ofList cs)
  | none => isIdentifier name.toList

/-- How the field of a property is written. -/
def fieldWord (property : String) : String :=
  if isReserved property then "r#" ++ property else property

/-- Whether a property can be read as a field. -/
def isFieldName (property : String) : Bool :=
  isIdentifier property.toList && (!isReserved property || isRawIdentifier property)

/-- The names of a specification that stand in the code as they are. -/
def codeWords (spec : MatcherSpec) : List String :=
  [spec.target.name, spec.className, spec.registryField.name, spec.registryField.target,
    spec.constructorName, spec.factory.name, spec.factory.returns] ++
  spec.propertyMethods.flatMap (fun m => [m.name, m.parameter]) ++
  spec.protocolMethods.map (·.field)

/-- Whether all names of a specification can stand in code. -/
def hasCodeWords (spec : MatcherSpec) : Bool :=
  (codeWords spec).all isCodeWord && spec.propertyMethods.all fun m => isFieldName m.property

/-- What the struct of a matcher is documented by. -/
def structComment (spec : MatcherSpec) : String :=
  " Fluent matcher for the properties of [\x60" ++ spec.target.name ++ "\x60]."

/-- What the factory of a matcher is documented by. -/
def factoryComment (spec : MatcherSpec) : String :=
  " Creates a [\x60" ++ spec.className ++ "\x60] with no property expectations."

/-- The lints that a matcher file allows. -/
def allowedLints (naming : Naming) : List String :=
  ["dead_code", "clippy::new_without_default"] ++
    match naming with
    | .snake => []
    | .camel => ["non_snake_case"]

end StructMatch.Code
