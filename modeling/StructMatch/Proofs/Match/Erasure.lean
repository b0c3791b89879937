import Mathlib.Logic.Function.Iterate
import StructMatch.Match.Matcher
import StructMatch.Sample.Beans

/-!
# Matchers for erased values

Most matchers come in two versions, one for the values of a type and one for erased values.  The
second is the first, lifted to erased values.  So both say the same of a value of that type, and
they go on doing so with any decorators around them: `erased_agrees`.

Of a value of another type a lifted matcher only says which type it is of, whatever was lifted.
Decorators do not change what is said of a value.  They add words to the description, and each
negation turns the answer around, for values of the wrong type as well: `decorated_typed`.
-/

namespace StructMatch

/-! ## Chains of decorators -/

/-- The ways to put a matcher around another one. -/
inductive Decorator where
  | is
  | not
deriving DecidableEq

namespace Decorator

variable {α : Type}

/-- What the decorator puts before the description. -/
def word : Decorator → String
  | is => "is "
  | not => "not "

/-- The decorator around a matcher. -/
def around : Decorator → Matcher α → Matcher α
  | is => Matcher.is
  | not => Matcher.not

@[simp] theorem expectation_around (decorator : Decorator) (m : Matcher α) :
    (decorator.around m).expectation = decorator.word ++ m.expectation := by
  cases decorator <;> rfl

@[simp] theorem mismatch_around (decorator : Decorator) (m : Matcher α) :
    (decorator.around m).mismatch = m.mismatch := by
  cases decorator <;> rfl

end Decorator

namespace Matcher

section Chain

variable {α : Type}

/-- A matcher with a chain of decorators around it, the first of them outermost. -/
def decorated (m : Matcher α) (chain : List Decorator) : Matcher α :=
  chain.foldr Decorator.around m

theorem decorated_cons (m : Matcher α) (decorator : Decorator) (chain : List Decorator) :
    m.decorated (decorator :: chain) = decorator.around (m.decorated chain) := rfl

/-- Each negation in the chain turns the answer around. -/
theorem accepts_decorated (m : Matcher α) (chain : List Decorator) (x : α) :
    (m.decorated chain).accepts x = Bool.not^[chain.count .not] (m.accepts x) := by
  induction chain with
  | nil => rfl
  | cons decorator chain ih =>
      cases decorator with
      | is =>
          rw [List.count_cons_of_ne (by decide), ← ih]
          rfl
      | not =>
          rw [List.count_cons_self, Function.iterate_succ_apply', ← ih]
          rfl

/-- The words of the decorators come before the description, in order. -/
theorem expectation_decorated (m : Matcher α) (chain : List Decorator) :
    (m.decorated chain).expectation = String.join (chain.map (·.word)) ++ m.expectation := by
  induction chain with
  | nil => simp [decorated]
  | cons decorator chain ih =>
      rw [decorated_cons, Decorator.expectation_around, ih, List.map_cons, String.join_cons,
        String.append_assoc]

theorem mismatch_decorated (m : Matcher α) (chain : List Decorator) :
    (m.decorated chain).mismatch = m.mismatch := by
  induction chain with
  | nil => rfl
  | cons decorator chain ih => rw [decorated_cons, Decorator.mismatch_around, ih]

end Chain

/-! ## Values of the type -/

section Erased

variable {Code : Type} [Universe Code] {code : Code}

/-- A matcher for erased values says of the values of one type what a matcher for these says. -/
structure AgreesOn (code : Code) (erased : Matcher (Erased Code))
    (concrete : Matcher (Universe.Val code)) : Prop where
  accepts : ∀ v, erased.accepts ⟨code, v⟩ = concrete.accepts v
  expectation : erased.expectation = concrete.expectation
  mismatch : ∀ v, erased.mismatch ⟨code, v⟩ = concrete.mismatch v

theorem AgreesOn.anything : AgreesOn code anything anything where
  accepts _ := rfl
  expectation := rfl
  mismatch _ := rfl

/-- Decorators keep an agreement. -/
theorem AgreesOn.decorated {erased : Matcher (Erased Code)} {concrete : Matcher (Universe.Val code)}
    (h : AgreesOn code erased concrete) (chain : List Decorator) :
    AgreesOn code (erased.decorated chain) (concrete.decorated chain) where
  accepts v := by rw [accepts_decorated, accepts_decorated, h.accepts]
  expectation := by rw [expectation_decorated, expectation_decorated, h.expectation]
  mismatch v := by rw [mismatch_decorated, mismatch_decorated, h.mismatch]

variable [DecidableEq Code]

theorem AgreesOn.typed (m : Matcher (Universe.Val code)) : AgreesOn code (typed code m) m where
  accepts v := by simp only [Matcher.typed, Erased.downcast?_self, Option.any_some]
  expectation := rfl
  mismatch v := by simp only [Matcher.typed, Erased.downcast?_self]

theorem satisfiesErased_eq_typed [Inspect (Universe.Val code)] (expectation : String)
    (accepts : Universe.Val code → Bool) :
    satisfiesErased code expectation accepts = typed code (satisfies expectation accepts) := rfl

theorem equalToErased_eq_typed [Inspect (Universe.Val code)] [BEq (Universe.Val code)]
    (expected : Universe.Val code) :
    equalToErased code expected = typed code (equalTo expected) := rfl

end Erased

end Matcher

/-- The matchers without decorators that come in two versions. -/
inductive PlainMatcher (α : Type) where
  | anything
  | equalTo [Inspect α] [BEq α] (expected : α)
  | satisfies [Inspect α] (expectation : String) (accepts : α → Bool)

/-- The version for the values of the type. -/
def PlainMatcher.concrete {α : Type} : PlainMatcher α → Matcher α
  | anything => .anything
  | equalTo expected => .equalTo expected
  | satisfies expectation accepts => .satisfies expectation accepts

section Erased

variable {Code : Type} [Universe Code] [DecidableEq Code] {code : Code}

/-- The version for erased values. -/
def PlainMatcher.erased : PlainMatcher (Universe.Val code) → Matcher (Erased Code)
  | anything => .anything
  | equalTo expected => .equalToErased code expected
  | satisfies expectation accepts => .satisfiesErased code expectation accepts

theorem PlainMatcher.agreesOn (m : PlainMatcher (Universe.Val code)) :
    Matcher.AgreesOn code m.erased m.concrete := by
  cases m with
  | anything => exact .anything
  | equalTo expected =>
      rw [erased, Matcher.equalToErased_eq_typed]
      exact .typed _
  | satisfies expectation accepts =>
      rw [erased, Matcher.satisfiesErased_eq_typed]
      exact .typed _

/-- The two versions of a matcher give the same answer for each value of the type, and say the same
of it, with the same decorators around both.  So do a matcher for the values of the type, whatever
it is, and this matcher lifted to erased values. -/
theorem erased_agrees (code : Code) :
    (∀ (m : PlainMatcher (Universe.Val code)) (chain : List Decorator),
      Matcher.AgreesOn code (m.erased.decorated chain) (m.concrete.decorated chain)) ∧
    ∀ m : Matcher (Universe.Val code), Matcher.AgreesOn code (.typed code m) m :=
  ⟨fun m chain => m.agreesOn.decorated chain, Matcher.AgreesOn.typed⟩

/-! ## Values of another type -/

/-- A matcher for erased values rejects those of all types but one, and names their type then. -/
structure Matcher.RejectsOthers (code : Code) (m : Matcher (Erased Code)) : Prop where
  accepts : ∀ x : Erased Code, x.code ≠ code → m.accepts x = false
  mismatch : ∀ x : Erased Code, x.code ≠ code → m.mismatch x = wasOfType x

theorem Matcher.rejectsOthers_typed (m : Matcher (Universe.Val code)) :
    RejectsOthers code (typed code m) where
  accepts x h := by simp only [typed, Erased.downcast?_of_ne h, Option.any_none]
  mismatch x h := by simp only [typed, Erased.downcast?_of_ne h]

theorem Matcher.rejectsOthers_instanceOf : RejectsOthers code (instanceOf code) where
  accepts x h := by simp only [instanceOf, Erased.downcast?_of_ne h, Option.isSome_none]
  mismatch _ _ := rfl

/-- The matchers for erased values that are about the values of one type. -/
inductive TypedMatcher (code : Code) where
  | equalTo [Inspect (Universe.Val code)] [BEq (Universe.Val code)] (expected : Universe.Val code)
  | satisfies [Inspect (Universe.Val code)] (expectation : String)
      (accepts : Universe.Val code → Bool)
  | typed (inner : Matcher (Universe.Val code))
  | instanceOf

def TypedMatcher.toMatcher : TypedMatcher code → Matcher (Erased Code)
  | equalTo expected => .equalToErased code expected
  | satisfies expectation accepts => .satisfiesErased code expectation accepts
  | typed inner => .typed code inner
  | instanceOf => .instanceOf code

theorem TypedMatcher.rejectsOthers (m : TypedMatcher code) :
    Matcher.RejectsOthers code m.toMatcher := by
  cases m with
  | equalTo expected =>
      rw [toMatcher, Matcher.equalToErased_eq_typed]
      exact Matcher.rejectsOthers_typed _
  | satisfies expectation accepts =>
      rw [toMatcher, Matcher.satisfiesErased_eq_typed]
      exact Matcher.rejectsOthers_typed _
  | typed inner => exact Matcher.rejectsOthers_typed inner
  | instanceOf => exact Matcher.rejectsOthers_instanceOf

/-- With decorators around it, a matcher about the values of one type accepts what it accepts
without them, turned around once for each negation.  Its description follows the words of the
decorators, and what it says of a value stays the same.  A value of another type it does not accept
without decorators, and says of what type the value is, with any decorators. -/
theorem decorated_typed (m : TypedMatcher code) (chain : List Decorator) (x : Erased Code) :
    let whole := m.toMatcher.decorated chain
    whole.accepts x = Bool.not^[chain.count .not] (m.toMatcher.accepts x) ∧
      (∀ d, (whole.describe d).text =
        d.text ++ String.join (chain.map (·.word)) ++ m.toMatcher.expectation) ∧
      (∀ d, whole.describeMismatch x d = m.toMatcher.describeMismatch x d) ∧
      (x.code ≠ code → m.toMatcher.accepts x = false ∧
        ∀ d, (whole.describeMismatch x d).text = d.text ++ ("was a " ++ x.typeName)) := by
  intro whole
  have hmismatch : whole.mismatch = m.toMatcher.mismatch := Matcher.mismatch_decorated _ chain
  refine ⟨Matcher.accepts_decorated _ chain x, fun d => ?_, fun d => ?_, fun h => ?_⟩
  · rw [Matcher.describe, Description.append, Matcher.expectation_decorated, String.append_assoc]
  · rw [Matcher.describeMismatch, Matcher.describeMismatch, hmismatch]
  · refine ⟨m.rejectsOthers.accepts x h, fun d => ?_⟩
    rw [Matcher.describeMismatch, Description.append, hmismatch, m.rejectsOthers.mismatch x h,
      Matcher.wasOfType]

open Sample in
/-- A negation that was lifted does not accept a text, but a negation of what was lifted does. -/
theorem decorated_typed_text :
    let number : Kind := .int false 32
    let m : TypedMatcher number := .typed (.not .anything)
    let x : Value := ⟨.text, "seven"⟩
    x.code ≠ number ∧ m.toMatcher.accepts x = false ∧
      (m.toMatcher.decorated [.is, .not]).accepts x = true ∧
      ((m.toMatcher.decorated [.is, .not]).describe .empty).text = "is not not ANYTHING" ∧
      ((m.toMatcher.decorated [.is, .not]).describeMismatch x .empty).text =
        "was a alloc::string::String" := by
  intro number m x
  have hcode : x.code ≠ number := by decide
  obtain ⟨haccepts, hdescribe, -, hother⟩ := decorated_typed m [.is, .not] x
  obtain ⟨hrejects, hmismatch⟩ := hother hcode
  refine ⟨hcode, hrejects, ?_, (hdescribe .empty).trans (by decide), hmismatch .empty⟩
  rw [haccepts, hrejects]
  rfl

end Erased

end StructMatch
