import Mathlib.Data.List.Basic
import Mathlib.Data.List.Induction
import StructMatch.Match.Registry
import StructMatch.Proofs.Properties
import StructMatch.Sample.Beans

/-!
# Registrations

What a registry is after a row of registrations.  Each property stands where it was registered
first, with the reader and the matcher that it was registered with last: `entries_registerAll`.  So
the registry accepts a value if the last matchers of all properties do, and which values these are
does not depend on the order of registrations of different properties: `registerAll_inForce`.
-/

namespace StructMatch

namespace Registry

variable {α Code : Type} [Universe Code]

/-! ## One registration -/

theorem names_put (entry : PropertyMatcher α Code) (entries : List (PropertyMatcher α Code)) :
    (put entry entries).map (·.name) =
      if entry.name ∈ entries.map (·.name) then entries.map (·.name)
      else entries.map (·.name) ++ [entry.name] := by
  induction entries with
  | nil => rfl
  | cons first rest ih =>
      rw [put]
      by_cases heq : first.name = entry.name
      · simp [heq]
      · rw [if_neg heq, List.map_cons, ih]
        by_cases hmem : entry.name ∈ rest.map (·.name)
        · simp only [hmem, if_true, List.map_cons, List.mem_cons, or_true]
        · simp only [hmem, if_false, List.map_cons, List.mem_cons, or_false,
            if_neg (Ne.symm heq), List.cons_append]

theorem find?_put (entry : PropertyMatcher α Code) (entries : List (PropertyMatcher α Code))
    (name : String) :
    (put entry entries).find? (·.name = name) =
      if entry.name = name then some entry else entries.find? (·.name = name) := by
  induction entries with
  | nil => by_cases h : entry.name = name <;> simp [put, h]
  | cons first rest ih =>
      rw [put]
      by_cases heq : first.name = entry.name
      · by_cases h : entry.name = name <;> simp [heq, h]
      · rw [if_neg heq, List.find?_cons, List.find?_cons, ih]
        by_cases hfirst : first.name = name
        · have hne : entry.name ≠ name := fun h => heq (hfirst.trans h.symm)
          simp [hfirst, hne]
        · simp [hfirst]

/-! ## A row of registrations -/

/-- Registers several matchers, one after the other. -/
def registerAll (r : Registry α Code) (calls : List (PropertyMatcher α Code)) :
    Registry α Code :=
  calls.foldl (fun r call => r.register call.name call.read call.matcher) r

/-- The last one of several registrations that is for the given property. -/
def lastOf? (name : String) (calls : List (PropertyMatcher α Code)) :
    Option (PropertyMatcher α Code) :=
  (calls.filter (·.name = name)).getLast?

theorem registerAll_concat (r : Registry α Code) (calls : List (PropertyMatcher α Code))
    (call : PropertyMatcher α Code) :
    r.registerAll (calls ++ [call]) =
      (r.registerAll calls).register call.name call.read call.matcher := by
  rw [registerAll, List.foldl_append]
  rfl

theorem lastOf?_concat (name : String) (calls : List (PropertyMatcher α Code))
    (call : PropertyMatcher α Code) :
    lastOf? name (calls ++ [call]) =
      if call.name = name then some call else lastOf? name calls := by
  by_cases h : call.name = name <;> simp [lastOf?, List.filter_append, h]

theorem name_of_lastOf? {name : String} {calls : List (PropertyMatcher α Code)}
    {call : PropertyMatcher α Code} (h : lastOf? name calls = some call) : call.name = name :=
  of_decide_eq_true (List.mem_filter.1 (List.mem_of_getLast? h)).2

/-- There is a last registration for each property that was registered. -/
theorem isSome_lastOf? {name : String} {calls : List (PropertyMatcher α Code)} :
    (lastOf? name calls).isSome = true ↔ name ∈ calls.map (·.name) := by
  rw [lastOf?, ← Option.ne_none_iff_isSome, ne_eq, List.getLast?_eq_none_iff,
    List.filter_eq_nil_iff, List.mem_map]
  simp

@[simp] theorem typeName_registerAll (r : Registry α Code)
    (calls : List (PropertyMatcher α Code)) : (r.registerAll calls).typeName = r.typeName := by
  induction calls using List.reverseRecOn with
  | nil => rfl
  | append_singleton calls call ih => rw [registerAll_concat, register, ih]

/-- The names are those of the registrations in the order in which they come first. -/
theorem names_registerAll (typeName : String) (calls : List (PropertyMatcher α Code)) :
    ((empty typeName).registerAll calls).names = firstOccurrences (calls.map (·.name)) := by
  induction calls using List.reverseRecOn with
  | nil => rfl
  | append_singleton calls call ih =>
      rw [names] at ih
      rw [registerAll_concat, names, register, names_put, ih, List.map_append, List.map_cons,
        List.map_nil, firstOccurrences_concat]
      simp only [mem_firstOccurrences]

/-- The entry of a property is its last registration. -/
theorem find?_registerAll (typeName : String) (calls : List (PropertyMatcher α Code))
    (name : String) :
    ((empty typeName).registerAll calls).entries.find? (·.name = name) = lastOf? name calls := by
  induction calls using List.reverseRecOn with
  | nil => rfl
  | append_singleton calls call ih =>
      rw [registerAll_concat, register, find?_put, ih, lastOf?_concat]

/-- Entries with different names are those that are found by their names. -/
theorem eq_filterMap_find? {entries : List (PropertyMatcher α Code)}
    (h : (entries.map (·.name)).Nodup) :
    entries = (entries.map (·.name)).filterMap fun name => entries.find? (·.name = name) := by
  induction entries with
  | nil => rfl
  | cons first rest ih =>
      rw [List.map_cons, List.nodup_cons] at h
      -- nothing among the rest is found in the place of the first entry
      have hrest : ((rest.map (·.name)).filterMap fun name =>
          (first :: rest).find? (·.name = name)) =
          (rest.map (·.name)).filterMap fun name => rest.find? (·.name = name) := by
        refine List.filterMap_congr fun name hname => ?_
        have hne : first.name ≠ name := fun heq => h.1 (heq ▸ hname)
        simp [hne]
      rw [List.map_cons, List.filterMap_cons, hrest, ← ih h.2]
      simp

/-- The registrations that are in force: for each property in the order in which they were
registered first, the last one. -/
def inForce (calls : List (PropertyMatcher α Code)) : List (PropertyMatcher α Code) :=
  (firstOccurrences (calls.map (·.name))).filterMap (lastOf? · calls)

/-- The entries of a registry are the registrations in force. -/
theorem entries_registerAll (typeName : String) (calls : List (PropertyMatcher α Code)) :
    ((empty typeName).registerAll calls).entries = inForce calls := by
  have hnames := names_registerAll typeName calls
  have hnodup : (((empty typeName).registerAll calls).entries.map (·.name)).Nodup := by
    rw [← names, hnames]
    exact nodup_firstOccurrences _
  rw [eq_filterMap_find? hnodup, ← names, hnames]
  simp only [find?_registerAll, inForce]

theorem mem_inForce {calls : List (PropertyMatcher α Code)} {call : PropertyMatcher α Code} :
    call ∈ inForce calls ↔ lastOf? call.name calls = some call := by
  rw [inForce, List.mem_filterMap]
  constructor
  · rintro ⟨name, -, hlast⟩
    rw [name_of_lastOf? hlast, hlast]
  · intro hlast
    refine ⟨call.name, mem_firstOccurrences.2 (isSome_lastOf?.1 ?_), hlast⟩
    rw [hlast]
    rfl

/-! ## Matching -/

/-- A registry accepts a value exactly if the last matcher of each property accepts what the last
reader reads. -/
theorem accepts_registerAll (typeName : String) (calls : List (PropertyMatcher α Code)) (x : α) :
    ((empty typeName).registerAll calls).accepts x = true ↔
      ∀ name ∈ calls.map (·.name), ∃ call, lastOf? name calls = some call ∧
        call.matcher.accepts (call.read x) = true := by
  rw [accepts, entries_registerAll, List.all_eq_true]
  constructor
  · intro hall name hname
    obtain ⟨call, hlast⟩ := Option.isSome_iff_exists.1 (isSome_lastOf?.2 hname)
    refine ⟨call, hlast, hall call (mem_inForce.2 ?_)⟩
    rw [name_of_lastOf? hlast, hlast]
  · intro hlast call hcall
    have hcall := mem_inForce.1 hcall
    have hname : call.name ∈ calls.map (·.name) := isSome_lastOf?.1 (by rw [hcall]; rfl)
    obtain ⟨last, hlast, haccepts⟩ := hlast call.name hname
    obtain rfl : call = last := Option.some.inj (hcall.symm.trans hlast)
    exact haccepts

/-- Whether the registrations of each property are the same and come in the same order. -/
def SamePerProperty (calls others : List (PropertyMatcher α Code)) : Prop :=
  ∀ name, calls.filter (·.name = name) = others.filter (·.name = name)

/-- Which values are accepted depends on the registrations of each property only. -/
theorem accepts_of_samePerProperty {calls others : List (PropertyMatcher α Code)}
    (h : SamePerProperty calls others) (typeName : String) (x : α) :
    ((empty typeName).registerAll others).accepts x =
      ((empty typeName).registerAll calls).accepts x := by
  have hlast : ∀ name, lastOf? name others = lastOf? name calls := by
    intro name
    rw [lastOf?, ← h name, lastOf?]
  have hnames : ∀ name, name ∈ others.map (·.name) ↔ name ∈ calls.map (·.name) := by
    intro name
    rw [← isSome_lastOf?, hlast, isSome_lastOf?]
  rw [Bool.eq_iff_iff, accepts_registerAll, accepts_registerAll]
  simp only [hlast, hnames]

/-! ## Describing -/

/-- What is expected of one property. -/
def clause (p : PropertyMatcher α Code) : String := p.name ++ " " ++ p.matcher.expectation

/-- Clauses after `with`, with `and` between any two. -/
def clausesText (clauses : List String) : String :=
  if clauses.isEmpty then "" else " with " ++ " and ".intercalate clauses

theorem expectationFrom_cons (joint : String) (p : PropertyMatcher α Code)
    (rest : List (PropertyMatcher α Code)) :
    expectationFrom joint (p :: rest) = joint ++ " and ".intercalate ((p :: rest).map clause) := by
  induction rest generalizing joint p with
  | nil => simp [expectationFrom, clause, String.append_assoc]
  | cons next rest ih =>
      rw [expectationFrom, ih, List.map_cons, List.map_cons, List.map_cons]
      simp [clause, String.append_assoc]

theorem expectationFrom_eq (entries : List (PropertyMatcher α Code)) :
    expectationFrom " with " entries = clausesText (entries.map clause) := by
  cases entries with
  | nil => rfl
  | cons first rest =>
      rw [expectationFrom_cons, clausesText]
      rfl

/-! ## Registries after any registrations -/

/-- After any registrations the properties are named once each, in the order in which they were
registered first, and of each of them the last registration is in force.  The registry accepts a
value if all of these do, describes them in the order of the names, and accepts the same values
after the same registrations in another order, as long as those of one property keep theirs. -/
theorem registerAll_inForce (typeName : String) (calls : List (PropertyMatcher α Code)) :
    let r := (empty typeName).registerAll calls
    r.names.Nodup ∧ r.names = firstOccurrences (calls.map (·.name)) ∧
      r.entries = r.names.filterMap (lastOf? · calls) ∧
      (∀ x, r.toMatcher.accepts x = true ↔ ∀ name ∈ r.names, ∃ call,
        lastOf? name calls = some call ∧ call.matcher.accepts (call.read x) = true) ∧
      r.typeName = simpleTypeName typeName ∧
      (∀ d, (r.toMatcher.describe d).text = d.text ++ "an instance of " ++ r.typeName ++
        clausesText ((r.names.filterMap (lastOf? · calls)).map clause)) ∧
      ∀ others, SamePerProperty calls others → ∀ x,
        ((empty typeName).registerAll others).toMatcher.accepts x = r.toMatcher.accepts x := by
  intro r
  have hnames : r.names = firstOccurrences (calls.map (·.name)) := names_registerAll typeName calls
  have hentries : r.entries = r.names.filterMap (lastOf? · calls) := by
    rw [hnames]
    exact entries_registerAll typeName calls
  refine ⟨?_, hnames, hentries, fun x => ?_, typeName_registerAll _ calls, fun d => ?_,
    fun others h x => accepts_of_samePerProperty h typeName x⟩
  · rw [hnames]
    exact nodup_firstOccurrences _
  · rw [hnames]
    simp only [mem_firstOccurrences]
    exact accepts_registerAll typeName calls x
  · have hdescribe : (r.toMatcher.describe d).text =
        d.text ++ ("an instance of " ++ r.typeName ++ expectationFrom " with " r.entries) := rfl
    rw [hdescribe, expectationFrom_eq, hentries, String.append_assoc, String.append_assoc,
      String.append_assoc]

open Sample in
/-- The registrations of one property and another one, in that order or the other, with the first
property registered twice. -/
theorem registerAll_account :
    let equals (n : Int) : Matcher Int := .equalTo n
    let id (n : Int) : PropertyMatcher Account Kind :=
      ⟨"id", fun a => ⟨.int false 32, a.id⟩, .typed (.int false 32) (equals n)⟩
    let owner : PropertyMatcher Account Kind :=
      ⟨"owner", fun a => ⟨.text, a.owner⟩, .instanceOf .text⟩
    let registered := (empty "crate::Account").registerAll [id 1, owner, id 2]
    registered.names = ["id", "owner"] ∧
      registered.expectation =
        "an instance of Account with id <2> and owner an instance of alloc::string::String" ∧
      ∀ x, ((empty "crate::Account").registerAll [owner, id 1, id 2]).toMatcher.accepts x =
        registered.toMatcher.accepts x := by
  intro equals id owner registered
  obtain ⟨-, hnames, -, -, -, -, horder⟩ :=
    registerAll_inForce "crate::Account" [id 1, owner, id 2]
  refine ⟨hnames.trans (by decide), by decide +kernel, horder _ fun name => ?_⟩
  by_cases hid : "id" = name
  · subst hid
    rfl
  · simp only [id, hid, List.filter_cons, decide_false]
    rfl

end Registry

end StructMatch
