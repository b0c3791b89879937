import Mathlib.Data.String.Basic
import StructMatch.Proofs.Match.Registration

/-!
# What a registry finds wrong

A registry goes through its properties and puts a comma before each one that it finds wrong, except
for the first.  What comes out is one piece of text for each property that is not accepted, with
commas between them, `mismatch_eq`, and no text at all exactly if the value is accepted,
`mismatch_eq_empty_iff`.

A registry may serve as the matcher of a property, whose own registry is asked in turn.  So the text
for a value is put together from those for its properties, and these from those for theirs, down to
matchers that are no registries: `objection?_eq`.  The text at every depth follows from that,
`mismatch_explains`.
-/

namespace StructMatch

variable {α Code : Type} [Universe Code]

namespace Registry

/-! ## The properties that are not accepted -/

/-- The properties of a value that are not accepted. -/
def rejected (x : α) (entries : List (PropertyMatcher α Code)) : List (PropertyMatcher α Code) :=
  entries.filter fun p => !p.accepts x

/-- What is said about a property that is not accepted. -/
def complaint (x : α) (p : PropertyMatcher α Code) : String :=
  p.name ++ " " ++ p.matcher.mismatch (p.read x)

theorem rejected_cons (x : α) (p : PropertyMatcher α Code)
    (rest : List (PropertyMatcher α Code)) :
    rejected x (p :: rest) = if p.accepts x then rejected x rest else p :: rejected x rest := by
  rw [rejected, List.filter_cons]
  cases p.accepts x <;> rfl

theorem rejected_eq_nil_iff {x : α} {entries : List (PropertyMatcher α Code)} :
    rejected x entries = [] ↔ entries.all (·.accepts x) = true := by
  rw [rejected, List.filter_eq_nil_iff, List.all_eq_true]
  simp

/-- A complaint is never empty, for there is a space in it. -/
theorem complaint_ne_empty (x : α) (p : PropertyMatcher α Code) : complaint x p ≠ "" := by
  intro h
  have hlength := congrArg String.length h
  rw [complaint, String.length_append, String.length_append] at hlength
  have hspace : " ".length = 1 := rfl
  have hempty : "".length = 0 := rfl
  omega

/-- The joint comes before the first complaint, and commas between any two. -/
theorem mismatchFrom_eq (joint : String) (x : α) (entries : List (PropertyMatcher α Code)) :
    mismatchFrom joint x entries =
      if (rejected x entries).isEmpty then ""
      else joint ++ commaSeparated ((rejected x entries).map (complaint x)) := by
  induction entries generalizing joint with
  | nil => rfl
  | cons p rest ih =>
      rw [mismatchFrom, rejected_cons]
      by_cases haccepts : p.accepts x = true
      · rw [if_pos haccepts, if_pos haccepts, ih]
      · rw [if_neg haccepts, if_neg haccepts, ih]
        -- whether a comma follows depends on whether there is a further complaint
        cases rejected x rest with
        | nil => simp [commaSeparated, complaint, String.append_assoc]
        | cons next others => simp [commaSeparated, complaint, String.append_assoc]

/-- What is wrong with a value is what is said about each property that is not accepted. -/
theorem mismatch_eq (r : Registry α Code) (x : α) :
    r.mismatch x = commaSeparated ((rejected x r.entries).map (complaint x)) := by
  rw [mismatch, mismatchFrom_eq]
  cases rejected x r.entries with
  | nil => rfl
  | cons p rest => simp

theorem commaSeparated_ne_empty {first : String} (h : first ≠ "") (rest : List String) :
    commaSeparated (first :: rest) ≠ "" := by
  cases rest with
  | nil => simpa [commaSeparated] using h
  | cons next rest =>
      rw [commaSeparated, String.intercalate_cons_cons]
      simp [h]

/-- There is nothing wrong with a value exactly if it is accepted. -/
theorem mismatch_eq_empty_iff (r : Registry α Code) (x : α) :
    r.mismatch x = "" ↔ r.accepts x = true := by
  rw [mismatch_eq, accepts, ← rejected_eq_nil_iff]
  cases rejected x r.entries with
  | nil => simp [commaSeparated]
  | cons p rest =>
      simp only [List.map_cons, reduceCtorEq, iff_false]
      exact commaSeparated_ne_empty (complaint_ne_empty x p) _

end Registry

/-! ## Registries for properties of properties -/

/-- Why a matcher does not accept a value, if it does not. -/
def Matcher.objection? (m : Matcher α) (x : α) : Option String :=
  if m.accepts x then none else some (m.mismatch x)

mutual

/-- What is expected of a value whose type is known at run time only: that a matcher accepts it, or
that it is of one type and its properties are as they are expected to be in turn. -/
inductive Expectation (Code : Type) [Universe Code] : Type where
  | matching (matcher : Matcher (Erased Code))
  | bean (code : Code) (typeName : String) (calls : ExpectedProperties Code code)

/-- Registrations of what is expected of the properties of one type, from the first one on. -/
inductive ExpectedProperties (Code : Type) [Universe Code] : Code → Type where
  | none {code : Code} : ExpectedProperties Code code
  | next {code : Code} (name : String) (read : Universe.Val code → Erased Code)
      (expected : Expectation Code) (later : ExpectedProperties Code code) :
      ExpectedProperties Code code

end

/-- The last of several things that are said under each name, in the order in which the names come
first. -/
def lastPerName {β : Type} (said : List (String × β)) : List (String × β) :=
  (firstOccurrences (said.map (·.1))).filterMap fun name => (said.filter (·.1 = name)).getLast?

/-- The objection to a value by the objections to its properties, if there is one. -/
def jointObjection? (objections : List (String × Option String)) : Option String :=
  let complaints := (lastPerName objections).filterMap fun (name, objection?) =>
    objection?.map fun text => name ++ " " ++ text
  if complaints.isEmpty then none else some (commaSeparated complaints)

/-! ## The registrations in force -/

theorem lastPerName_map {β : Type} (said : PropertyMatcher α Code → β)
    (calls : List (PropertyMatcher α Code)) :
    lastPerName (calls.map fun p => (p.name, said p)) =
      (Registry.inForce calls).map fun p => (p.name, said p) := by
  rw [lastPerName, Registry.inForce, List.map_filterMap, List.map_map]
  refine List.filterMap_congr fun name _ => ?_
  rw [List.filter_map, List.getLast?_map]
  rfl

/-- The complaints are the objections that there are. -/
theorem filterMap_objection? (x : α) (entries : List (PropertyMatcher α Code)) :
    (entries.filterMap fun p =>
        (p.matcher.objection? (p.read x)).map fun text => p.name ++ " " ++ text) =
      (Registry.rejected x entries).map (Registry.complaint x) := by
  induction entries with
  | nil => rfl
  | cons p rest ih =>
      rw [List.filterMap_cons, ih, Registry.rejected_cons, Matcher.objection?]
      by_cases haccepts : p.accepts x = true
      · have hown : p.matcher.accepts (p.read x) = true := haccepts
        rw [if_pos haccepts, if_pos hown]
        rfl
      · have hown : ¬p.matcher.accepts (p.read x) = true := haccepts
        rw [if_neg haccepts, if_neg hown]
        rfl

/-- The objection of a registry is put together from those of its properties. -/
theorem jointObjection?_eq (typeName : String) (calls : List (PropertyMatcher α Code)) (x : α) :
    jointObjection? (calls.map fun p => (p.name, p.matcher.objection? (p.read x))) =
      ((Registry.empty typeName).registerAll calls).toMatcher.objection? x := by
  have hentries := Registry.entries_registerAll typeName calls
  have haccepts : ((Registry.empty typeName).registerAll calls).accepts x = true ↔
      Registry.rejected x (Registry.inForce calls) = [] := by
    rw [Registry.accepts, hentries, Registry.rejected_eq_nil_iff]
  have hmismatch := Registry.mismatch_eq ((Registry.empty typeName).registerAll calls) x
  rw [hentries] at hmismatch
  rw [jointObjection?, lastPerName_map, List.filterMap_map, Function.comp_def]
  simp only [filterMap_objection?]
  rw [Matcher.objection?, Registry.toMatcher]
  simp only [haccepts, hmismatch]
  cases Registry.rejected x (Registry.inForce calls) <;> simp

section Nested

variable [DecidableEq Code]

mutual

/-- The matcher that one writes for an expectation. -/
def Expectation.toMatcher : Expectation Code → Matcher (Erased Code)
  | .matching matcher => matcher
  | .bean code typeName calls =>
    .typed code ((Registry.empty typeName).registerAll calls.toList).toMatcher

/-- The registrations that one makes for expected properties. -/
def ExpectedProperties.toList {code : Code} :
    ExpectedProperties Code code → List (PropertyMatcher (Universe.Val code) Code)
  | .none => []
  | .next name read expected later => ⟨name, read, expected.toMatcher⟩ :: later.toList

end

mutual

/-- Why a value is not as expected, if it is not. -/
def Expectation.objection? : Expectation Code → Erased Code → Option String
  | .matching matcher, x => matcher.objection? x
  | .bean code _ calls, x =>
    match x.downcast? code with
    | none => some (Matcher.wasOfType x)
    | some v => jointObjection? (calls.objections v)

/-- The objections to the properties of a value. -/
def ExpectedProperties.objections {code : Code} :
    ExpectedProperties Code code → Universe.Val code → List (String × Option String)
  | .none, _ => []
  | .next name read expected later, v =>
    (name, expected.objection? (read v)) :: later.objections v

end

/-! ## The text at every depth -/

mutual

/-- The matcher for an expectation objects to a value as the expectation does. -/
theorem Expectation.objection?_eq (expected : Expectation Code) (x : Erased Code) :
    expected.objection? x = expected.toMatcher.objection? x := by
  cases expected with
  | matching matcher => simp [Expectation.objection?, Expectation.toMatcher]
  | bean code typeName calls =>
      rw [Expectation.objection?, Expectation.toMatcher]
      cases hvalue : x.downcast? code with
      | none => simp [Matcher.objection?, Matcher.typed, hvalue]
      | some v =>
          simp only
          rw [ExpectedProperties.objections_eq calls v, jointObjection?_eq typeName]
          simp [Matcher.objection?, Matcher.typed, hvalue]

/-- The objections to the properties of a value are those of their matchers. -/
theorem ExpectedProperties.objections_eq {code : Code} (calls : ExpectedProperties Code code)
    (v : Universe.Val code) :
    calls.objections v =
      calls.toList.map fun p => (p.name, p.matcher.objection? (p.read v)) := by
  cases calls with
  | none => simp [ExpectedProperties.objections, ExpectedProperties.toList]
  | next name read expected later =>
      rw [ExpectedProperties.objections, ExpectedProperties.toList, List.map_cons,
        Expectation.objection?_eq expected (read v), ExpectedProperties.objections_eq later v]

end

/-- For a matcher that is a registry at heart, nothing is wrong with a value exactly if it is
accepted. -/
theorem mismatch_bean_eq_empty_iff (code : Code) (typeName : String)
    (calls : ExpectedProperties Code code) (x : Erased Code) :
    (Expectation.bean code typeName calls).toMatcher.mismatch x = "" ↔
      (Expectation.bean code typeName calls).toMatcher.accepts x = true := by
  rw [Expectation.toMatcher]
  cases hvalue : x.downcast? code with
  | none => simp [Matcher.typed, hvalue, Matcher.wasOfType]
  | some v =>
      simp only [Matcher.typed, hvalue, Option.any_some]
      exact Registry.mismatch_eq_empty_iff _ v

/-- What a registry finds wrong is appended to what was said before: the complaints about exactly
those properties in force that are not accepted, in the order in which they were registered first.
Nothing is appended exactly if the value is accepted.  The same holds for a registry in the place of
the matcher of a property, and so at every depth. -/
theorem mismatch_explains (typeName : String) (calls : List (PropertyMatcher α Code)) :
    let m := ((Registry.empty typeName).registerAll calls).toMatcher
    (∀ x d,
      (m.describeMismatch x d).text = d.text ++ ", ".intercalate
        (((Registry.inForce calls).filter fun p => !p.matcher.accepts (p.read x)).map fun p =>
          p.name ++ " " ++ p.matcher.mismatch (p.read x)) ∧
      ((m.describeMismatch x d).text = d.text ↔ m.accepts x = true)) ∧
    ∀ (code : Code) (innerName : String) (inner : ExpectedProperties Code code) (y : Erased Code)
      (d : Description),
      let expected := Expectation.bean code innerName inner
      (expected.toMatcher.describeMismatch y d).text = d.text ++ (expected.objection? y).getD "" ∧
      ((expected.toMatcher.describeMismatch y d).text = d.text ↔
        expected.toMatcher.accepts y = true) := by
  intro m
  have happended (before text : String) : before ++ text = before ↔ text = "" := by
    rw [← String.toList_inj, ← String.toList_inj, String.toList_append]
    simp
  constructor
  · intro x d
    have htext : (m.describeMismatch x d).text =
        d.text ++ ((Registry.empty typeName).registerAll calls).mismatch x := rfl
    constructor
    · rw [htext, Registry.mismatch_eq, Registry.entries_registerAll]
      rfl
    · rw [htext, happended]
      exact Registry.mismatch_eq_empty_iff _ x
  · intro code innerName inner y d expected
    have htext : (expected.toMatcher.describeMismatch y d).text =
        d.text ++ expected.toMatcher.mismatch y := rfl
    have hempty := mismatch_bean_eq_empty_iff code innerName inner y
    constructor
    · rw [htext, Expectation.objection?_eq, Matcher.objection?]
      by_cases haccepts : expected.toMatcher.accepts y = true
      · rw [if_pos haccepts, hempty.2 haccepts]
        rfl
      · rw [if_neg haccepts]
        rfl
    · rw [htext, happended]
      exact hempty

end Nested

open Sample in
example :
    let equals (n : Int) : Matcher Int := .equalTo n
    let one : Expectation Kind := .matching (.typed (.int false 32) (equals 1))
    let account : Expectation Kind := .bean (.declared .account) "crate::Account"
      (.next "id" (fun a : Account => ⟨.int false 32, a.id⟩) one .none)
    let pair : List (PropertyMatcher AccountPair Kind) :=
      [⟨"left", fun p => ⟨.declared .account, p.left⟩, account.toMatcher⟩,
        ⟨"right", fun p => ⟨.declared .account, p.right⟩, account.toMatcher⟩]
    ((Registry.empty "crate::Pair").registerAll pair).mismatch ⟨⟨1, "a"⟩, ⟨2, "b"⟩⟩ =
      "right id was <2>" := by
  decide +kernel

end StructMatch
