import StructMatch.Introspection
import StructMatch.Log

/-!
# Properties

The properties of a type are the names of its fields, each of them once and in the order in which
they come first.  A type whose fields cannot be read has no properties, and the log says why.
-/

namespace StructMatch

/-- The names in the order in which they come first, each of them once. -/
def firstOccurrences : List String → List String
  | [] => []
  | name :: rest => name :: (firstOccurrences rest).filter (· ≠ name)

theorem firstOccurrences_nil : firstOccurrences [] = [] := rfl

theorem firstOccurrences_cons (name : String) (rest : List String) :
    firstOccurrences (name :: rest) = name :: (firstOccurrences rest).filter (· ≠ name) := rfl

/-- The property names of a type, or why its fields could not be read. -/
def tryPropertiesOf (introspect : Introspector) (type : StructType) :
    Except IntrospectionError (List String) :=
  (introspect type).map fun fields => firstOccurrences (fields.map (·.name))

/-- The log line for a type whose fields could not be read. -/
def reportUnreadable (type : StructType) (error : IntrospectionError) : Logged Unit :=
  .line .error ("Failed to read properties of " ++ type.qualifiedName ++ ": " ++ error.message)

/-- The property names of a type, if there is one.  This never fails. -/
def propertiesOf (introspect : Introspector) (type? : Option StructType) : Logged (List String) :=
  match type? with
  | none => pure []
  | some type =>
    match tryPropertiesOf introspect type with
    | .ok names => pure names
    | .error error => do
      reportUnreadable type error
      return []

end StructMatch
