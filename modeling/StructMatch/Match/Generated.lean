import StructMatch.Match.Registry

/-!
# Generated matchers

A generated matcher is a registry that starts out empty, together with who generated it and from
which type.  Its fluent methods register matchers for the properties of the type.
-/

namespace StructMatch

/-- A matcher that was generated for a type. -/
structure GeneratedMatcher (α Code : Type) [Universe Code] where
  generatedBy : String
  /-- The full path of the type the matcher was generated from. -/
  basedOn : String
  registry : Registry α Code

namespace GeneratedMatcher

variable {α Code : Type} [Universe Code]

/-- The fluent method for one property. -/
def property (m : GeneratedMatcher α Code) (name : String) (read : α → Erased Code)
    (matcher : Matcher (Erased Code)) : GeneratedMatcher α Code :=
  { m with registry := m.registry.register name read matcher }

/-- The generated matcher as a matcher. -/
def toMatcher (m : GeneratedMatcher α Code) : Matcher α := m.registry.toMatcher

end GeneratedMatcher

end StructMatch
