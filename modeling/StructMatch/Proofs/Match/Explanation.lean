import Mathlib.Algebra.Ring.Parity
import StructMatch.Proofs.Match.Erasure
import StructMatch.Proofs.Match.Mismatch

/-!
# Failed checks

A check fails exactly if the matcher rejects the value, and then reports what is wrong with it.
There is one way for this report to be empty.  A negation says of a value what the matcher inside
says, although it rejects the values that this one accepts.  Of these, a matcher for anything and a
registry have nothing to say.  So a check fails without a word exactly if an odd number of negations
stands around a matcher for anything, or around a registry that accepts the value:
`check_explains_iff`.
-/

namespace StructMatch

/-! ## Plain matchers -/

variable {Code : Type} [Universe Code]

/-- Whether a plain matcher is the one for anything. -/
def PlainMatcher.isAnything {α : Type} : PlainMatcher α → Bool
  | anything => true
  | _ => false

theorem PlainMatcher.accepts_concrete_of_isAnything {α : Type} {m : PlainMatcher α}
    (h : m.isAnything = true) (v : α) : m.concrete.accepts v = true := by
  cases m with
  | anything => rfl
  | _ => exact absurd h Bool.false_ne_true

theorem PlainMatcher.mismatch_concrete_eq_empty_iff {α : Type} (m : PlainMatcher α) (v : α) :
    m.concrete.mismatch v = "" ↔ m.isAnything = true := by
  cases m with
  | anything => exact iff_of_true rfl rfl
  | _ => simp [concrete, isAnything, Matcher.equalTo, Matcher.satisfies]

theorem Matcher.wasOfType_ne_empty (x : Erased Code) : wasOfType x ≠ "" := by
  simp [wasOfType]

variable [DecidableEq Code]

/-- A lifted matcher always has something to say of a value of another type. -/
theorem Matcher.mismatch_typed_eq_empty_iff {code : Code} (m : Matcher (Universe.Val code))
    (x : Erased Code) : (typed code m).mismatch x = "" ↔
      ∃ v, x.downcast? code = some v ∧ m.mismatch v = "" := by
  cases hvalue : x.downcast? code with
  | none => simp [typed, hvalue, wasOfType_ne_empty]
  | some v => simp [typed, hvalue]

theorem PlainMatcher.mismatch_erased_eq_empty_iff {code : Code}
    (m : PlainMatcher (Universe.Val code)) (x : Erased Code) :
    m.erased.mismatch x = "" ↔ m.isAnything = true := by
  cases m with
  | anything => exact iff_of_true rfl rfl
  | equalTo expected =>
      rw [erased, Matcher.equalToErased_eq_typed, Matcher.mismatch_typed_eq_empty_iff]
      simp [isAnything, Matcher.equalTo, Matcher.satisfies]
  | satisfies expectation accepts =>
      rw [erased, Matcher.satisfiesErased_eq_typed, Matcher.mismatch_typed_eq_empty_iff]
      simp [isAnything, Matcher.satisfies]

/-! ## Matchers of any nesting -/

/-- What a matcher is for: the values of one type, or erased values. -/
inductive Subject (Code : Type) where
  | valuesOf (code : Code)
  | erased

/-- The values that a matcher is for. -/
abbrev Subject.Val {Code : Type} [Universe Code] : Subject Code → Type
  | valuesOf code => Universe.Val code
  | erased => Erased Code

mutual

/-- How a matcher is put together. -/
inductive MatcherTree (Code : Type) [Universe Code] : Subject Code → Type where
  | plain {code : Code} (m : PlainMatcher (Universe.Val code)) : MatcherTree Code (.valuesOf code)
  | bean (code : Code) (calls : PropertyTrees Code code) : MatcherTree Code (.valuesOf code)
  | plainErased (code : Code) (m : PlainMatcher (Universe.Val code)) : MatcherTree Code .erased
  | instanceOf (code : Code) : MatcherTree Code .erased
  | typed (code : Code) (inner : MatcherTree Code (.valuesOf code)) : MatcherTree Code .erased
  | decorated {subject : Subject Code} (decorator : Decorator) (inner : MatcherTree Code subject) :
      MatcherTree Code subject

/-- Registrations for the properties of one type, from the first one on. -/
inductive PropertyTrees (Code : Type) [Universe Code] : Code → Type where
  | none {code : Code} : PropertyTrees Code code
  | next {code : Code} (name : String) (read : Universe.Val code → Erased Code)
      (matcher : MatcherTree Code .erased) (later : PropertyTrees Code code) :
      PropertyTrees Code code

end

mutual

/-- The matcher that is put together. -/
def MatcherTree.toMatcher {subject : Subject Code} :
    MatcherTree Code subject → Matcher subject.Val
  | .plain m => m.concrete
  | .bean code calls =>
    ((Registry.empty (Universe.typeName code)).registerAll calls.toList).toMatcher
  | .plainErased _ m => m.erased
  | .instanceOf code => .instanceOf code
  | .typed code inner => .typed code inner.toMatcher
  | .decorated decorator inner => decorator.around inner.toMatcher

/-- The registrations with their matchers. -/
def PropertyTrees.toList {code : Code} :
    PropertyTrees Code code → List (PropertyMatcher (Universe.Val code) Code)
  | .none => []
  | .next name read matcher later => ⟨name, read, matcher.toMatcher⟩ :: later.toList

end

/-! ## Nothing to say -/

namespace MatcherTree

/-- Whether a matcher has nothing to say of a value: under its decorators stands a matcher for
anything, or a registry that accepts the value.  The value has to be of the right type for it. -/
def isSilentOn {subject : Subject Code} : MatcherTree Code subject → subject.Val → Bool
  | .plain m, _ => m.isAnything
  | .bean code calls, v => (bean code calls).toMatcher.accepts v
  | .plainErased _ m, _ => m.isAnything
  | .instanceOf _, _ => false
  | .typed code inner, x => (x.downcast? code).any inner.isSilentOn
  | .decorated _ inner, x => inner.isSilentOn x

/-- How many negations stand around the innermost matcher. -/
def negations {subject : Subject Code} : MatcherTree Code subject → Nat
  | .typed _ inner => inner.negations
  | .decorated decorator inner => [decorator].count .not + inner.negations
  | _ => 0

/-- What a matcher says of a value is empty if it has nothing to say, whether it accepts the value
or not. -/
theorem mismatch_eq_empty_iff {subject : Subject Code} (m : MatcherTree Code subject)
    (x : subject.Val) : m.toMatcher.mismatch x = "" ↔ m.isSilentOn x = true := by
  match m, x with
  | .plain m, v => exact m.mismatch_concrete_eq_empty_iff v
  | .bean code calls, v =>
      rw [isSilentOn, toMatcher]
      exact Registry.mismatch_eq_empty_iff _ v
  | .plainErased _ m, x => exact m.mismatch_erased_eq_empty_iff x
  | .instanceOf code, x =>
      exact iff_of_false (Matcher.wasOfType_ne_empty x) Bool.false_ne_true
  | .typed code inner, x =>
      rw [toMatcher, Matcher.mismatch_typed_eq_empty_iff, isSilentOn, Option.any_eq_true]
      simp only [mismatch_eq_empty_iff inner]
  | .decorated decorator inner, x =>
      rw [toMatcher, Decorator.mismatch_around, isSilentOn]
      exact mismatch_eq_empty_iff inner x

/-- A matcher that has nothing to say of a value accepts it, turned around once for each
negation. -/
theorem accepts_of_isSilentOn {subject : Subject Code} (m : MatcherTree Code subject)
    (x : subject.Val) (h : m.isSilentOn x = true) :
    m.toMatcher.accepts x = Bool.not^[m.negations] true := by
  match m, x, h with
  | .plain m, v, h => exact PlainMatcher.accepts_concrete_of_isAnything h v
  | .bean code calls, v, h => exact h
  | .plainErased _ .anything, x, h => rfl
  | .typed code inner, x, h =>
      rw [isSilentOn, Option.any_eq_true] at h
      obtain ⟨v, hvalue, hsilent⟩ := h
      have ih := accepts_of_isSilentOn inner v hsilent
      simp only [toMatcher, Matcher.typed, hvalue, Option.any_some, negations, ih]
  | .decorated decorator inner, x, h =>
      have ih := accepts_of_isSilentOn inner x h
      have hone := Matcher.accepts_decorated inner.toMatcher [decorator] x
      rw [negations, Function.iterate_add_apply, ← ih]
      exact hone

/-- An odd number of negations turns acceptance into rejection. -/
theorem iterate_not_true {n : Nat} : Bool.not^[n] true = false ↔ Odd n := by
  induction n with
  | zero => simp
  | succ n ih =>
      rw [Function.iterate_succ_apply', Nat.odd_add_one, ← ih]
      simp

end MatcherTree

/-! ## Checking -/

theorem check_eq_ok_iff {α : Type} {x : α} {m : Matcher α} :
    check x m = .ok () ↔ m.accepts x = true := by
  rw [check]
  cases m.accepts x <;> simp

theorem check_eq_error_iff {α : Type} {x : α} {m : Matcher α} {failure : Failure} :
    check x m = .error failure ↔
      m.accepts x = false ∧ failure = ⟨m.expectation, m.mismatch x⟩ := by
  rw [check]
  cases m.accepts x with
  | true => simp
  | false =>
      simp [Matcher.describe, Matcher.describeMismatch, Description.append, Description.empty,
        eq_comm]

/-- A check succeeds if the matcher accepts the value.  If it fails, the report says what is wrong,
unless an odd number of negations stands around a matcher that has nothing to say. -/
theorem check_explains_iff {subject : Subject Code} (m : MatcherTree Code subject)
    (x : subject.Val) :
    (check x m.toMatcher = .ok () ↔ m.toMatcher.accepts x = true) ∧
      ((∀ failure, check x m.toMatcher = .error failure → failure.mismatch ≠ "") ↔
        ¬(m.isSilentOn x = true ∧ Odd m.negations)) := by
  refine ⟨check_eq_ok_iff, ?_⟩
  simp only [check_eq_error_iff]
  constructor
  · rintro hexplains ⟨hsilent, hodd⟩
    have hrejects : m.toMatcher.accepts x = false :=
      (m.accepts_of_isSilentOn x hsilent).trans (MatcherTree.iterate_not_true.2 hodd)
    exact hexplains _ ⟨hrejects, rfl⟩ ((m.mismatch_eq_empty_iff x).2 hsilent)
  · rintro hnot failure ⟨hrejects, rfl⟩ hempty
    have hsilent : m.isSilentOn x = true := (m.mismatch_eq_empty_iff x).1 hempty
    refine hnot ⟨hsilent, MatcherTree.iterate_not_true.1 ?_⟩
    rw [← m.accepts_of_isSilentOn x hsilent]
    exact hrejects

open Sample in
/-- A negation inside a registry is explained like anything else. -/
theorem check_explains_account :
    let one : PlainMatcher Int := .equalTo 1
    let account : Kind := .declared .account
    let m : MatcherTree Kind .erased := .typed account (.bean account (.next "id"
      (fun a : Account => ⟨.int false 32, a.id⟩)
      (.decorated .not (.plainErased (.int false 32) one)) .none))
    let x : Value := ⟨account, (⟨1, "alice"⟩ : Account)⟩
    ¬(m.isSilentOn x = true ∧ Odd m.negations) ∧
      check x m.toMatcher = .error ⟨"an instance of Account with id not <1>", "id was <1>"⟩ ∧
      ∀ failure, check x m.toMatcher = .error failure → failure.mismatch ≠ "" := by
  intro one account m x
  have hnot : ¬(m.isSilentOn x = true ∧ Odd m.negations) := by decide +kernel
  exact ⟨hnot, by decide +kernel, (check_explains_iff m x).2.2 hnot⟩

open Sample in
/-- A negation around a matcher for anything, or around a registry that accepts the value, makes a
check fail without a word. -/
theorem check_not_anything :
    let number : Kind := .int false 8
    let account : Kind := .declared .account
    let nothing : MatcherTree Kind (.valuesOf number) := .decorated .not (.plain .anything)
    let noAccount : MatcherTree Kind (.valuesOf account) := .decorated .not (.bean account .none)
    check (5 : Int) nothing.toMatcher = .error ⟨"not ANYTHING", ""⟩ ∧
      check (⟨7, "alice"⟩ : Account) noAccount.toMatcher =
        .error ⟨"not an instance of Account", ""⟩ := by
  decide +kernel

end StructMatch
