import StructMatch.Match.Description
import StructMatch.Match.Universe

/-!
# Matchers

A matcher is a predicate that explains itself: it describes what it expects, and for a value it
says why the value does not fit.  Both texts are appended to a description.  The second one is
meant for values that the matcher rejects but may be asked for any value.

Matchers come in two kinds, for the values of one type and for erased values.  Most of them exist
in both: an erased value of another type is never accepted, and the reason is then its type.
-/

namespace StructMatch

/-- A predicate with an account of itself. -/
structure Matcher (α : Type) where
  accepts : α → Bool
  /-- What an accepted value looks like. -/
  expectation : String
  /-- What is wrong with a value. -/
  mismatch : α → String

namespace Matcher

variable {α : Type}

/-- Appends what the matcher expects. -/
def describe (m : Matcher α) (d : Description) : Description := d.append m.expectation

/-- Appends what is wrong with a value. -/
def describeMismatch (m : Matcher α) (x : α) (d : Description) : Description :=
  d.append (m.mismatch x)

/-! ## Matchers for the values of one type -/

/-- Accepts every value. -/
def anything : Matcher α := ⟨fun _ => true, "ANYTHING", fun _ => ""⟩

/-- Accepts what the predicate accepts. -/
def satisfies [Inspect α] (expectation : String) (accepts : α → Bool) : Matcher α :=
  ⟨accepts, expectation, fun x => "was " ++ bracketed x⟩

/-- Accepts the values equal to the expected one. -/
def equalTo [Inspect α] [BEq α] (expected : α) : Matcher α :=
  satisfies (bracketed expected) (· == expected)

/-! ## Decorators -/

/-- Changes nothing but the description. -/
def is (inner : Matcher α) : Matcher α :=
  ⟨inner.accepts, "is " ++ inner.expectation, inner.mismatch⟩

/-- Accepts what the inner matcher rejects. -/
def not (inner : Matcher α) : Matcher α :=
  ⟨fun x => !inner.accepts x, "not " ++ inner.expectation, inner.mismatch⟩

/-! ## Matchers for erased values -/

section Erased

variable {Code : Type} [Universe Code] [DecidableEq Code]

/-- What is wrong with a value that has the wrong type. -/
def wasOfType (x : Erased Code) : String := "was a " ++ x.typeName

/-- Accepts the values of one type. -/
def instanceOf (code : Code) : Matcher (Erased Code) :=
  ⟨fun x => (x.downcast? code).isSome, "an instance of " ++ Universe.typeName code, wasOfType⟩

/-- Accepts the values of one type that the inner matcher accepts. -/
def typed (code : Code) (inner : Matcher (Universe.Val code)) : Matcher (Erased Code) where
  accepts x := (x.downcast? code).any inner.accepts
  expectation := inner.expectation
  mismatch x :=
    match x.downcast? code with
    | some v => inner.mismatch v
    | none => wasOfType x

/-- Accepts the values of one type that the predicate accepts. -/
def satisfiesErased (code : Code) [Inspect (Universe.Val code)] (expectation : String)
    (accepts : Universe.Val code → Bool) : Matcher (Erased Code) where
  accepts x := (x.downcast? code).any accepts
  expectation := expectation
  mismatch x :=
    match x.downcast? code with
    | some v => "was " ++ bracketed v
    | none => wasOfType x

/-- Accepts the values of one type that equal the expected one. -/
def equalToErased (code : Code) [Inspect (Universe.Val code)] [BEq (Universe.Val code)]
    (expected : Universe.Val code) : Matcher (Erased Code) :=
  satisfiesErased code (bracketed expected) (· == expected)

end Erased

end Matcher

/-- Appends the expectation of a matcher. -/
def Description.appendExpectation {α : Type} (d : Description) (m : Matcher α) : Description :=
  m.describe d

/-! ## Checking -/

/-- Why a check failed. -/
structure Failure where
  expected : String
  mismatch : String
deriving DecidableEq

/-- The report of a failed check. -/
def Failure.message (f : Failure) : String :=
  "\nExpected: " ++ f.expected ++ "\n     but: " ++ f.mismatch

/-- Holds a value against a matcher. -/
def check {α : Type} (x : α) (m : Matcher α) : Except Failure Unit :=
  if m.accepts x then .ok ()
  else .error ⟨(m.describe .empty).text, (m.describeMismatch x .empty).text⟩

end StructMatch
