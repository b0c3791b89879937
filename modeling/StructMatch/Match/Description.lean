import StructMatch.Match.Inspect

/-!
# Descriptions

A description is a text that only grows: what was appended stays where it is.  Values are appended
in their inspected form between angle brackets.
-/

namespace StructMatch

/-- A value between angle brackets. -/
def bracketed {α : Type} [Inspect α] (x : α) : String := "<" ++ inspect x ++ ">"

/-- A growing text about matchers and mismatches. -/
structure Description where
  text : String
deriving DecidableEq

namespace Description

/-- The description that says nothing yet. -/
def empty : Description := ⟨""⟩

/-- Whether nothing has been said. -/
def isEmpty (d : Description) : Bool := d.text.isEmpty

/-- Appends a text. -/
def append (d : Description) (text : String) : Description := ⟨d.text ++ text⟩

/-- Appends a value between angle brackets. -/
def appendValue {α : Type} [Inspect α] (d : Description) (x : α) : Description :=
  d.append (bracketed x)

end Description

end StructMatch
