import StructMatch.Proofs.Text.FileName

/-!
# Names in snake case

Within ASCII, snake case keeps every character of a name, makes the letters small and puts an
underscore before some of the capitals, each time right after a letter or a digit: `Spreads`.  So it
takes nothing away but case, it begins, ends and doubles an underscore only where the name does, and
a name in snake case stays as it is: `snakeCase_spreads`.

Whether a capital begins a word is decided by the characters around it.  A class is named for its
type and the word `Matcher`, and the capital of that word is told apart from the name of the type
only if this name ends in a letter with case or in a digit, `endsWord`.  So the file of the class is
named like the factory of the matcher for such types and for no others: `fileName_build_iff`.
-/

namespace StructMatch

open Text

variable {before? : Option Char} {c d : Char} {cs ds front back : List Char}

/-! ## Letters of ASCII -/

theorem toNat_lt_of_isUpper (h : c.isUpper = true) : c.toNat < 128 := by
  have hbounds : 'A'.val ≤ c.val ∧ c.val ≤ 'Z'.val := of_decide_eq_true h
  exact Nat.lt_of_le_of_lt (UInt32.le_iff_toNat_le.1 hbounds.2) (by decide)

theorem toLower_of_not_isUpper (h : c.isUpper = false) : c.toLower = c := by
  have hbounds : ¬ ('A'.val ≤ c.val ∧ c.val ≤ 'Z'.val) := of_decide_eq_false h
  exact dif_neg hbounds

theorem toLower_ne_underscore_ascii :
    ∀ c : Char, c.toNat < 128 → c.isUpper = true → c.toLower ≠ '_' :=
  forall_ascii (by decide)

theorem isUpper_toLower_ascii : ∀ c : Char, c.toNat < 128 → isUpper c.toLower = false :=
  forall_ascii (by decide)

/-- No capital turns into an underscore. -/
theorem toLower_ne_underscore (h : c.isUpper = true) : c.toLower ≠ '_' :=
  toLower_ne_underscore_ascii c (toNat_lt_of_isUpper h) h

theorem eq_underscore_of_toLower (h : c.toLower = '_') : c = '_' := by
  cases hupper : c.isUpper with
  | false => rwa [toLower_of_not_isUpper hupper] at h
  | true => exact absurd h (toLower_ne_underscore hupper)

/-- Within ASCII a capital begins a word only after a letter or a digit. -/
theorem isAlphanum_of_beginsWord {next? : Option Char} (hascii : ∀ p ∈ before?, p.toNat < 128)
    (h : beginsWord before? next? = true) : ∃ p, before? = some p ∧ p.isAlphanum = true := by
  cases before? with
  | none => exact absurd h (by simp [beginsWord])
  | some p =>
      have hp : p.toNat < 128 := hascii p rfl
      refine ⟨p, rfl, ?_⟩
      simp only [beginsWord, isLower, isUpper, hp, if_true] at h
      have hcases : (p.isUpper = true ∨ p.isLower = true) ∨ p.isDigit = true := by
        split at h
        · exact absurd h (by decide)
        · split at h
          · next hsmall =>
              rcases Bool.or_eq_true_iff.1 hsmall with hlower | hdigit
              · exact Or.inl (Or.inr hlower)
              · exact Or.inr hdigit
          · exact Or.inl (Or.inl (Bool.and_eq_true_iff.1 h).1)
      exact Bool.or_eq_true_iff.2 (hcases.imp_left Bool.or_eq_true_iff.2)

/-! ## Spread names -/

/-- Whether a text is a name in small letters that is spread out by underscores, after the character
`before?`.  All characters of the name are kept, and a further underscore stands only between a
letter or a digit and a capital. -/
inductive Spreads : Option Char → List Char → List Char → Prop
  | nil {before? : Option Char} : Spreads before? [] []
  | keep {before? : Option Char} {c : Char} {cs ds : List Char} (h : Spreads (some c) cs ds) :
      Spreads before? (c :: cs) (c.toLower :: ds)
  | insert {p c : Char} {cs ds : List Char} (hp : p.isAlphanum = true) (hc : c.isUpper = true)
      (h : Spreads (some c) cs ds) : Spreads (some p) (c :: cs) ('_' :: c.toLower :: ds)

/-- Snake case spreads the names of ASCII out. -/
theorem spreads_snakeFrom (hbefore : ∀ p ∈ before?, p.toNat < 128)
    (h : ∀ c ∈ cs, c.toNat < 128) : Spreads before? cs (snakeFrom before? cs) := by
  induction cs generalizing before? with
  | nil => exact .nil
  | cons c cs ih =>
      obtain ⟨hc, hcs⟩ := List.forall_mem_cons.1 h
      have hrest : Spreads (some c) cs (snakeFrom (some c) cs) := by
        refine ih (fun p hp => ?_) hcs
        rwa [← Option.mem_some_iff.1 hp]
      have hlower : toLower c = [c.toLower] := if_pos hc
      have hupper : isUpper c = c.isUpper := if_pos hc
      rw [snakeFrom, hlower, hupper]
      cases hcapital : c.isUpper with
      | false =>
          have hkept : Spreads before? (c :: cs) (c.toLower :: snakeFrom (some c) cs) := hrest.keep
          rwa [toLower_of_not_isUpper hcapital] at hkept
      | true =>
          rw [if_pos rfl]
          split
          · next hword =>
              obtain ⟨p, rfl, hp⟩ := isAlphanum_of_beginsWord hbefore hword
              exact .insert hp hcapital hrest
          · exact .keep hrest

namespace Spreads

theorem eq_nil (h : Spreads before? cs []) : cs = [] := by
  cases h
  rfl

/-- The characters of a spread name are those of the name in small letters, and underscores. -/
theorem mem (h : Spreads before? cs ds) (hd : d ∈ ds) : d = '_' ∨ ∃ c ∈ cs, c.toLower = d := by
  induction h with
  | nil => exact absurd hd List.not_mem_nil
  | @keep _ c cs _ _ ih =>
      rcases List.mem_cons.1 hd with rfl | hd
      · exact Or.inr ⟨c, List.mem_cons_self, rfl⟩
      · exact (ih hd).imp_right fun ⟨e, he, hlower⟩ => ⟨e, List.mem_cons_of_mem _ he, hlower⟩
  | @insert _ c cs _ _ _ _ ih =>
      rcases List.mem_cons.1 hd with rfl | hd
      · exact Or.inl rfl
      · rcases List.mem_cons.1 hd with rfl | hd
        · exact Or.inr ⟨c, List.mem_cons_self, rfl⟩
        · exact (ih hd).imp_right fun ⟨e, he, hlower⟩ => ⟨e, List.mem_cons_of_mem _ he, hlower⟩

/-- Apart from the underscores, nothing but case is changed. -/
theorem filter_eq (h : Spreads before? cs ds) :
    ds.filter (· ≠ '_') = (cs.map Char.toLower).filter (· ≠ '_') := by
  induction h with
  | nil => rfl
  | keep _ ih => rw [List.map_cons, List.filter_cons, List.filter_cons, ih]
  | insert _ _ _ ih =>
      rw [List.filter_cons_of_neg (by simp), List.map_cons, List.filter_cons, List.filter_cons, ih]

/-- A spread name begins with an underscore only if the name does, unless there is a letter or a
digit before it. -/
theorem exists_of_underscore_cons (h : Spreads before? cs ('_' :: ds))
    (hbefore : ∀ p ∈ before?, p.isAlphanum = false) :
    ∃ back, cs = '_' :: back ∧ Spreads (some '_') back ds := by
  generalize hall : '_' :: ds = all at h
  cases h with
  | nil => exact absurd hall (List.cons_ne_nil _ _)
  | @keep _ c back _ hrest =>
      obtain ⟨hlower, rfl⟩ := List.cons.inj hall
      obtain rfl := eq_underscore_of_toLower hlower.symm
      exact ⟨back, rfl, hrest⟩
  | @insert p _ _ _ hp =>
      rw [hbefore p rfl] at hp
      exact absurd hp (by decide)

/-- An underscore in a spread name is one of the name, or a capital of the name comes after it. -/
theorem exists_of_append_underscore (h : Spreads before? cs (front ++ '_' :: back)) :
    (∃ front' back', cs = front' ++ '_' :: back' ∧ Spreads before? front' front ∧
      Spreads (some '_') back' back) ∨
    ∃ (c : Char) (rest : List Char), c.isUpper = true ∧ back = c.toLower :: rest := by
  generalize hall : front ++ '_' :: back = all at h
  -- by induction on the name, with what stands before the underscore taken off from the front
  induction h generalizing front with
  | nil => exact absurd hall (by simp)
  | @keep before? c cs ds hrest ih =>
      cases front with
      | nil =>
          obtain ⟨hlower, rfl⟩ := List.cons.inj hall
          obtain rfl := eq_underscore_of_toLower hlower.symm
          exact Or.inl ⟨[], cs, rfl, .nil, hrest⟩
      | cons d front =>
          obtain ⟨rfl, htail⟩ := List.cons.inj hall
          refine (ih htail).imp_left ?_
          rintro ⟨front', back', rfl, hfront, hback⟩
          exact ⟨c :: front', back', rfl, hfront.keep, hback⟩
  | @insert p c cs ds hp hc hrest ih =>
      cases front with
      | nil => exact Or.inr ⟨c, ds, hc, (List.cons.inj hall).2⟩
      | cons d front =>
          obtain ⟨rfl, htail⟩ := List.cons.inj hall
          cases front with
          | nil => exact absurd (List.cons.inj htail).1.symm (toLower_ne_underscore hc)
          | cons e front =>
              obtain ⟨rfl, hend⟩ := List.cons.inj htail
              refine (ih hend).imp_left ?_
              rintro ⟨front', back', rfl, hfront, hback⟩
              exact ⟨c :: front', back', rfl, hfront.insert hp hc, hback⟩

/-- A spread name ends with an underscore only if the name does. -/
theorem exists_of_concat_underscore (h : Spreads before? cs (front ++ ['_'])) :
    ∃ front', cs = front' ++ ['_'] ∧ Spreads before? front' front := by
  rcases exists_of_append_underscore h with ⟨front', back', rfl, hfront, hback⟩ | ⟨c, rest, -, hnil⟩
  · rw [hback.eq_nil]
    exact ⟨front', rfl, hfront⟩
  · exact absurd hnil (by simp)

/-- A spread name has two underscores in a row only where the name does. -/
theorem exists_of_double_underscore (h : Spreads before? cs (front ++ '_' :: '_' :: back)) :
    ∃ front' back', cs = front' ++ '_' :: '_' :: back' ∧ Spreads before? front' front ∧
      Spreads (some '_') back' back := by
  rcases exists_of_append_underscore h with ⟨front', rest, rfl, hfront, hrest⟩ | ⟨c, rest, hc, heq⟩
  · obtain ⟨back', rfl, hback⟩ := exists_of_underscore_cons hrest fun p hp => by
      rw [← Option.mem_some_iff.1 hp]
      decide
    exact ⟨front', back', rfl, hfront, hback⟩
  · exact absurd (List.cons.inj heq).1.symm (toLower_ne_underscore hc)

end Spreads

/-- A text without capitals is in snake case already. -/
theorem snakeFrom_of_forall_not_isUpper (h : ∀ c ∈ cs, isUpper c = false) :
    snakeFrom before? cs = cs := by
  induction cs generalizing before? with
  | nil => rfl
  | cons c cs ih =>
      obtain ⟨hc, hcs⟩ := List.forall_mem_cons.1 h
      rw [snakeFrom, ih hcs, hc]
      rfl

/-- Snake case makes the capitals of an ASCII name small and puts underscores between a letter or a
digit and a capital.  It changes nothing else, so it begins, ends and doubles an underscore only
where the name does, and it has nothing to do a second time. -/
theorem snakeCase_spreads {name : String} (h : ∀ c ∈ name.toList, c.toNat < 128) :
    (∀ c ∈ (snakeCase name).toList, isUpper c = false) ∧
    (snakeCase name).toList.filter (· ≠ '_') = (name.toList.map Char.toLower).filter (· ≠ '_') ∧
    Spreads none name.toList (snakeCase name).toList ∧
    (∀ ds, (snakeCase name).toList = '_' :: ds →
      ∃ back, name.toList = '_' :: back ∧ Spreads (some '_') back ds) ∧
    (∀ ds, (snakeCase name).toList = ds ++ ['_'] →
      ∃ front, name.toList = front ++ ['_'] ∧ Spreads none front ds) ∧
    (∀ ds es, (snakeCase name).toList = ds ++ '_' :: '_' :: es →
      ∃ front back, name.toList = front ++ '_' :: '_' :: back ∧ Spreads none front ds ∧
        Spreads (some '_') back es) ∧
    snakeCase (snakeCase name) = snakeCase name := by
  have hspreads : Spreads none name.toList (snakeCase name).toList := by
    rw [snakeCase, String.toList_ofList]
    exact spreads_snakeFrom (by simp) h
  have hsmall : ∀ c ∈ (snakeCase name).toList, isUpper c = false := by
    intro d hd
    rcases hspreads.mem hd with rfl | ⟨c, hc, rfl⟩
    · decide
    · exact isUpper_toLower_ascii c (h c hc)
  refine ⟨hsmall, hspreads.filter_eq, hspreads, fun ds hds => ?_, fun ds hds => ?_,
    fun ds es hds => ?_, ?_⟩
  · rw [hds] at hspreads
    exact hspreads.exists_of_underscore_cons (by simp)
  · rw [hds] at hspreads
    exact hspreads.exists_of_concat_underscore
  · rw [hds] at hspreads
    exact hspreads.exists_of_double_underscore
  · rw [snakeCase, snakeFrom_of_forall_not_isUpper hsmall, String.ofList_toList]

/-- A name with an acronym, a digit and underscores of its own. -/
theorem snakeCase_spreads_acronym : (∀ c ∈ "_HTTPRequest2Go_".toList, c.toNat < 128) ∧
    snakeCase "_HTTPRequest2Go_" = "_http_request2_go_" ∧
    Spreads none "_HTTPRequest2Go_".toList "_http_request2_go_".toList ∧
    snakeCase "_http_request2_go_" = "_http_request2_go_" := by
  have hall : "_HTTPRequest2Go_".toList.all (·.toNat < 128) = true := by decide +kernel
  have hascii : ∀ c ∈ "_HTTPRequest2Go_".toList, c.toNat < 128 := by
    simpa only [List.all_eq_true, decide_eq_true_eq] using hall
  have hname : snakeCase "_HTTPRequest2Go_" = "_http_request2_go_" := by decide +kernel
  obtain ⟨-, -, hspreads, -, -, -, hagain⟩ := snakeCase_spreads hascii
  rw [hname] at hspreads hagain
  exact ⟨hascii, hname, hspreads, hagain⟩

/-! ## Names of classes and their files -/

/-- Whether a capital that is put after a name begins a further word if a small letter follows it:
the name ends in a letter with case or in a digit. -/
def endsWord (name : String) : Bool :=
  name.toList.getLast?.any fun c => isLower c || isUpper c || c.isDigit

/-- A capital before a small letter begins a word after every letter with case and every digit. -/
theorem beginsWord_small (hd : isLower d = true) :
    beginsWord before? (some d) = before?.any fun c => isLower c || isUpper c || c.isDigit := by
  cases before? with
  | none => rfl
  | some p =>
      rw [beginsWord, Option.any_some, Option.any_some, hd, Bool.and_true]
      by_cases hp : p = '_'
      · subst hp
        decide
      · rw [if_neg hp, Bool.or_right_comm]
        cases isLower p || p.isDigit <;> rfl

/-- What comes after a capital decides whether a word begins only if it is a small letter. -/
theorem beginsWord_append (hd : isLower d = false) (cs : List Char) :
    beginsWord before? (cs ++ d :: ds).head? = beginsWord before? cs.head? := by
  cases cs with
  | cons c cs => rfl
  | nil =>
      cases before? with
      | none => rfl
      | some p => simp [beginsWord, hd]

/-- A name that goes on with something other than a small letter is put into snake case as far as it
goes, and then the rest of it. -/
theorem snakeFrom_append (hd : isLower d = false) (before? : Option Char) (cs : List Char) :
    snakeFrom before? (cs ++ d :: ds) =
      snakeFrom before? cs ++ snakeFrom (cs.getLast?.or before?) (d :: ds) := by
  induction cs generalizing before? with
  | nil => rfl
  | cons c cs ih =>
      rw [List.cons_append, snakeFrom, snakeFrom, beginsWord_append hd, ih, List.append_assoc,
        List.getLast?_cons]
      cases cs.getLast? <;> rfl

/-- The word at the end of the name of a class stands apart if the name of the type ends a word. -/
theorem snakeCase_className (name : String) :
    snakeCase (name ++ "Matcher") =
      snakeCase name ++ if endsWord name then "_matcher" else "matcher" := by
  have hclass : "Matcher".toList = 'M' :: "atcher".toList := by decide
  have hrest : snakeFrom (some 'M') "atcher".toList = "atcher".toList := by decide
  have hupper : isUpper 'M' = true := by decide
  have hlower : toLower 'M' = ['m'] := by decide
  have hword : beginsWord name.toList.getLast? "atcher".toList.head? = endsWord name :=
    beginsWord_small (by decide)
  rw [snakeCase, String.toList_append, hclass, snakeFrom_append (by decide), Option.or_none,
    String.ofList_append, snakeFrom, hrest, if_pos hupper, hlower, hword, snakeCase]
  split <;> rfl

/-- In snake case the name of a class still ends in what makes it one. -/
theorem exists_snakeCase_className (name : String) :
    ∃ stem, snakeCase (name ++ "Matcher") = stem ++ "matcher" := by
  refine ⟨snakeCase name ++ if endsWord name then "_" else "", ?_⟩
  rw [snakeCase_className, String.append_assoc]
  split <;> rfl

namespace MatcherSpec

/-- The file of a matcher has the name of the factory in the style with underscores, but for the
ending, if the name of the type ends in a letter with case or in a digit.  Otherwise the name of the
type and the word after it are not told apart. -/
theorem fileName_build_iff (naming : Naming) (generatorName : String) (type : StructType)
    (properties : List String) :
    (build .snake generatorName type properties).factory.name = "is_" ++ snakeCase type.name ∧
    ((build naming generatorName type properties).fileName =
        snakeCase type.name ++ "_matcher.rs" ↔ endsWord type.name = true) ∧
    (build naming generatorName type properties).fileName =
      snakeCase type.name ++ if endsWord type.name then "_matcher.rs" else "matcher.rs" := by
  have hname : (build naming generatorName type properties).fileName =
      snakeCase type.name ++ if endsWord type.name then "_matcher.rs" else "matcher.rs" := by
    have hclass : (build naming generatorName type properties).fileName =
        snakeCase (type.name ++ "Matcher") ++ ".rs" := rfl
    rw [hclass, snakeCase_className, String.append_assoc]
    split <;> rfl
  refine ⟨rfl, ?_, hname⟩
  rw [hname, String.append_right_inj]
  cases endsWord type.name <;> decide

/-- The file of a type whose name ends in an underscore, or in a letter without case, has no further
underscore before its last word. -/
theorem fileName_underscore :
    isIdentifier "User_".toList = true ∧
    (build .snake defaultGeneratorName ⟨"User_", .root, none⟩ []).fileName = "user_matcher.rs" ∧
    "user_matcher.rs" ≠ snakeCase "User_" ++ "_matcher.rs" ∧
    isIdentifier "日本".toList = true ∧
    (build .snake defaultGeneratorName ⟨"日本", .root, none⟩ []).fileName = "日本matcher.rs" ∧
    "日本matcher.rs" ≠ snakeCase "日本" ++ "_matcher.rs" := by
  decide +kernel

end MatcherSpec

end StructMatch
