import StructMatch.Naming
import StructMatch.Provenance
import StructMatch.StructType

/-!
# Matcher specifications

A specification lists everything that a matcher file will contain, before it is written out: the
names of the class, its registry field, constructor and factory, one fluent method for each
property, the methods of the matching protocol, and the markers that record the provenance.

Every specification that is built from a type is complete and consistent, but its members can be
replaced one by one, and replacing one changes no other.
-/

namespace StructMatch

/-- The private field that holds the registry of a matcher. -/
structure RegistryField where
  name : String
  /-- The name of the type that the registry is for. -/
  target : String
deriving DecidableEq

/-- A fluent method that registers a matcher for one property. -/
structure PropertyMethod where
  name : String
  property : String
  parameter : String
deriving DecidableEq

/-- The operations of the matching protocol. -/
inductive ProtocolOperation where
  | describeTo
  | matchesSafely
  | describeMismatchSafely
deriving DecidableEq

namespace ProtocolOperation

/-- All operations in the order in which they are written. -/
def all : List ProtocolOperation := [describeTo, matchesSafely, describeMismatchSafely]

/-- The name of the method that implements the operation. -/
def methodName : ProtocolOperation → String
  | describeTo => "describe_to"
  | matchesSafely => "matches_safely"
  | describeMismatchSafely => "describe_mismatch_safely"

/-- The operation of the registry that the method forwards to. -/
def delegate : ProtocolOperation → String
  | describeTo => "describe_to"
  | matchesSafely => "matches"
  | describeMismatchSafely => "describe_mismatch"

end ProtocolOperation

/-- A method of the matching protocol and the field that it forwards to. -/
structure ProtocolMethod where
  operation : ProtocolOperation
  field : String
deriving DecidableEq

/-- The free function that returns a fresh matcher. -/
structure Factory where
  name : String
  returns : String
deriving DecidableEq

/-- One half of a provenance. -/
inductive Marker where
  | generatedBy (name : String)
  | basedOn (path : String)
deriving DecidableEq

/-- Everything that one matcher file will contain. -/
structure MatcherSpec where
  target : StructType
  properties : List String
  className : String
  package : String
  fileName : String
  naming : Naming
  registryField : RegistryField
  constructorName : String
  propertyMethods : List PropertyMethod
  protocolMethods : List ProtocolMethod
  factory : Factory
  markers : List Marker
deriving DecidableEq

namespace MatcherSpec

/-- The specification of the matcher for a type with the given properties. -/
def build (naming : Naming) (generatorName : String) (type : StructType)
    (properties : List String) : MatcherSpec :=
  let className := type.name ++ "Matcher"
  let registryName := "bean_property_matcher"
  { target := type
    properties := properties
    className := className
    package := type.namespaceText
    fileName := snakeCase className ++ ".rs"
    naming := naming
    registryField := ⟨registryName, type.name⟩
    constructorName := "new"
    propertyMethods := properties.map fun property =>
      ⟨naming.propertyMethod property, property, "matcher"⟩
    protocolMethods := ProtocolOperation.all.map fun operation => ⟨operation, registryName⟩
    factory := ⟨naming.factory type.name, className⟩
    markers := [.generatedBy generatorName, .basedOn type.qualifiedName] }

/-- The provenance that the markers record.  The last marker of a kind counts. -/
def provenance (spec : MatcherSpec) : Provenance :=
  spec.markers.foldl
    (fun p marker =>
      match marker with
      | .generatedBy name => { p with generatedBy := name }
      | .basedOn path => { p with basedOn := path })
    ⟨"", ""⟩

/-- The path of the matcher file: a directory for each module of the type, below `outputDir`. -/
def artifactPath (spec : MatcherSpec) (outputDir : Path) : Path :=
  (spec.target.modulePath.segments.foldl (fun dir segment => dir.join ⟨segment⟩) outputDir).join
    ⟨spec.fileName⟩

end MatcherSpec

end StructMatch
