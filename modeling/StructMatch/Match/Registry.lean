import StructMatch.Match.Matcher
import StructMatch.Text.Blank

/-!
# Registries of property matchers

A registry holds matchers for the properties of one type.  Each property has a name, a way to read
it from a value, and a matcher for what is read.  A property keeps the place of its first
registration, and a later registration replaces the reader and the matcher.

A registry is itself a matcher: it accepts a value when every property is accepted, and otherwise
names each property that was not.
-/

namespace StructMatch

variable {α Code : Type} [Universe Code]

/-- One property with its reader and its matcher. -/
structure PropertyMatcher (α Code : Type) [Universe Code] where
  name : String
  read : α → Erased Code
  matcher : Matcher (Erased Code)

/-- Whether the property of a value is accepted. -/
def PropertyMatcher.accepts (p : PropertyMatcher α Code) (x : α) : Bool :=
  p.matcher.accepts (p.read x)

/-- The matchers registered for the properties of one type. -/
structure Registry (α Code : Type) [Universe Code] where
  /-- The name of the type, without the modules it lies in. -/
  typeName : String
  entries : List (PropertyMatcher α Code)

/-- What follows the last path separator of a text, if it has one. -/
def afterLastSeparator? : List Char → Option (List Char)
  | [] => none
  | c :: cs => (afterLastSeparator? cs).or (Text.afterStart? [':', ':'] (c :: cs))

/-- The name of a type without the modules it lies in. -/
def simpleTypeName (name : String) : String :=
  ((afterLastSeparator? name.toList).map String.ofList).getD name

namespace Registry

/-- The registry without properties, for the type of the given full name. -/
def empty (typeName : String) : Registry α Code := ⟨simpleTypeName typeName, []⟩

/-- The names of the registered properties, in the order of their first registration. -/
def names (r : Registry α Code) : List String := r.entries.map (·.name)

/-- Puts an entry in the place of the one with its name, or at the end. -/
def put (entry : PropertyMatcher α Code) :
    List (PropertyMatcher α Code) → List (PropertyMatcher α Code)
  | [] => [entry]
  | e :: rest => if e.name = entry.name then entry :: rest else e :: put entry rest

/-- Registers a matcher for the property `name`, read by `read`. -/
def register (r : Registry α Code) (name : String) (read : α → Erased Code)
    (matcher : Matcher (Erased Code)) : Registry α Code :=
  { r with entries := put ⟨name, read, matcher⟩ r.entries }

/-- Whether every property of the value is accepted. -/
def accepts (r : Registry α Code) (x : α) : Bool := r.entries.all (·.accepts x)

/-- What is expected of the properties, joined to what was said before by `with` or `and`. -/
def expectationFrom (joint : String) : List (PropertyMatcher α Code) → String
  | [] => ""
  | p :: rest => joint ++ p.name ++ " " ++ p.matcher.expectation ++ expectationFrom " and " rest

/-- What an accepted value looks like. -/
def expectation (r : Registry α Code) : String :=
  "an instance of " ++ r.typeName ++ expectationFrom " with " r.entries

/-- What is wrong with each property of the value that is not accepted.  The first of them follows
the given joint, and each further one a comma. -/
def mismatchFrom (joint : String) (x : α) : List (PropertyMatcher α Code) → String
  | [] => ""
  | p :: rest =>
    if p.accepts x then mismatchFrom joint x rest
    else joint ++ p.name ++ " " ++ p.matcher.mismatch (p.read x) ++ mismatchFrom ", " x rest

/-- What is wrong with a value. -/
def mismatch (r : Registry α Code) (x : α) : String := mismatchFrom "" x r.entries

/-- The registry as a matcher. -/
def toMatcher (r : Registry α Code) : Matcher α := ⟨r.accepts, r.expectation, r.mismatch⟩

end Registry

end StructMatch
