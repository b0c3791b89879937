import Mathlib.Data.List.Nodup
import StructMatch.Proofs.Text.FileName

/-!
# Names of fluent methods

Every fluent method is named for its property.  With underscores the name ends in the property, so
different properties have methods of different names.  With capitals it ends in the capitalised
property, and different properties can be the same when they are capitalised, `capitalize_eq_iff`:
so are `id` and `Id`, and also `ßa` and `sSa`, as the capital form of `ß` is two characters.  No
fluent method is named like the constructor or a method of the protocol, since only the names of
fluent methods begin with `with`.
-/

namespace StructMatch

open Text

/-! ## Capital forms -/

namespace Text

open LetterCase

theorem longUpper_ne_nil : ∀ entry ∈ longUpper, entry.2 ≠ [] := by
  decide

/-- No character is lost when it is capitalised. -/
theorem toUpper_ne_nil (c : Char) : toUpper c ≠ [] := by
  unfold toUpper mapped
  split
  · exact List.cons_ne_nil _ _
  · split
    · next forms hforms =>
        obtain ⟨before, after, hlong, -⟩ := List.lookup_eq_some_iff.1 hforms
        have hne : forms ≠ [] := longUpper_ne_nil (c.toNat, forms) (by simp [hlong])
        exact fun hnil => hne (List.map_eq_nil_iff.1 hnil)
    · split <;> exact List.cons_ne_nil _ _

/-- Small letters and the underscore can be told from their capital forms. -/
theorem toLower_toUpper_ascii : ∀ c : Char, c.toNat < 128 →
    c.isLower = true ∨ c = '_' → c.toUpper.toLower = c :=
  forall_ascii (by decide)

end Text

variable {p q : String} {c d : Char} {cs ds : List Char}

theorem toList_capitalize (h : p.toList = c :: cs) :
    (capitalize p).toList = toUpper c ++ cs := by
  rw [capitalize, h, String.toList_ofList]

theorem capitalize_eq_empty_iff : capitalize p = "" ↔ p = "" := by
  constructor
  · intro hempty
    cases hp : p.toList with
    | nil => exact String.toList_eq_nil_iff.1 hp
    | cons c cs =>
        have hlist := toList_capitalize hp
        rw [hempty] at hlist
        exact absurd (List.append_eq_nil_iff.1 hlist.symm).1 (toUpper_ne_nil c)
  · rintro rfl
    rfl

/-- Whether the first character of a name stands, as a capital, for the first character of another
name and further ones there, and both names go on in the same way. -/
def CapitalCovers (p q : String) : Prop :=
  ∃ c d more rest, p.toList = c :: rest ∧ q.toList = d :: (more ++ rest) ∧
    toUpper c = toUpper d ++ more

/-- Whether two names differ in nothing that is left when they are capitalised. -/
def SharesCapital (p q : String) : Prop :=
  CapitalCovers p q ∨ CapitalCovers q p

theorem capitalCovers_iff (hp : p.toList = c :: cs) (hq : q.toList = d :: ds) :
    CapitalCovers p q ↔ ∃ more, toUpper c = toUpper d ++ more ∧ ds = more ++ cs := by
  constructor
  · rintro ⟨_, _, more, _, hp', hq', hupper⟩
    obtain ⟨rfl, rfl⟩ := List.cons.inj (hp.symm.trans hp')
    obtain ⟨rfl, rfl⟩ := List.cons.inj (hq.symm.trans hq')
    exact ⟨more, hupper, rfl⟩
  · rintro ⟨more, hupper, rfl⟩
    exact ⟨c, d, more, cs, hp, hq, hupper⟩

theorem sharesCapital_iff (hp : p.toList = c :: cs) (hq : q.toList = d :: ds) :
    SharesCapital p q ↔ toUpper c ++ cs = toUpper d ++ ds := by
  rw [SharesCapital, capitalCovers_iff hp hq, capitalCovers_iff hq hp, or_comm,
    List.append_eq_append_iff]

theorem SharesCapital.ne_empty (h : SharesCapital p q) : p ≠ "" ∧ q ≠ "" := by
  have hne {name : String} {c : Char} {cs : List Char} (hname : name.toList = c :: cs) :
      name ≠ "" := by
    rintro rfl
    exact List.cons_ne_nil c cs hname.symm
  rcases h with ⟨c, d, more, rest, hp, hq, -⟩ | ⟨c, d, more, rest, hq, hp, -⟩
  · exact ⟨hne hp, hne hq⟩
  · exact ⟨hne hp, hne hq⟩

/-- Which different names become the same when they are capitalised. -/
theorem capitalize_eq_iff (hne : p ≠ q) : capitalize p = capitalize q ↔ SharesCapital p q := by
  cases hp : p.toList with
  | nil =>
      obtain rfl := String.toList_eq_nil_iff.1 hp
      refine iff_of_false (fun heq => hne ?_) fun hshares => hshares.ne_empty.1 rfl
      exact (capitalize_eq_empty_iff.1 heq.symm).symm
  | cons c cs =>
      cases hq : q.toList with
      | nil =>
          obtain rfl := String.toList_eq_nil_iff.1 hq
          refine iff_of_false (fun heq => hne ?_) fun hshares => hshares.ne_empty.2 rfl
          exact capitalize_eq_empty_iff.1 heq
      | cons d ds =>
          rw [sharesCapital_iff hp hq, ← toList_capitalize hp, ← toList_capitalize hq,
            String.toList_inj]

example : SharesCapital "ßa" "sSa" :=
  Or.inl ⟨'ß', 's', ['S'], ['a'], by decide, by decide, by decide +kernel⟩

/-- Whether a name begins as is usual for a field. -/
def BeginsSmall (name : String) : Prop :=
  ∃ c cs, name.toList = c :: cs ∧ (c.isLower = true ∨ c = '_')

/-- Names that begin with small letters or underscores stay different. -/
theorem not_sharesCapital_of_beginsSmall (hp : BeginsSmall p) (hq : BeginsSmall q) (hne : p ≠ q) :
    ¬SharesCapital p q := by
  have hascii : ∀ {c : Char}, c.isLower = true ∨ c = '_' →
      toUpper c = [c.toUpper] ∧ c.toUpper.toLower = c := by
    intro c hsmall
    have hbound : c.toNat < 128 := by
      rcases hsmall with hlower | rfl
      · have hlast : c.val ≤ 'z'.val := of_decide_eq_true (Bool.and_eq_true_iff.1 hlower).2
        exact Nat.lt_of_le_of_lt (UInt32.le_iff_toNat_le.1 hlast) (by decide)
      · decide
    exact ⟨if_pos hbound, toLower_toUpper_ascii c hbound hsmall⟩
  obtain ⟨c, cs, hp, hc⟩ := hp
  obtain ⟨d, ds, hq, hd⟩ := hq
  rw [sharesCapital_iff hp hq, (hascii hc).1, (hascii hd).1, List.singleton_append,
    List.singleton_append]
  intro heq
  obtain ⟨hfirst, rfl⟩ := List.cons.inj heq
  refine hne (String.toList_inj.1 ?_)
  rw [hp, hq, ← (hascii hc).2, ← (hascii hd).2, hfirst]

/-! ## Names of methods -/

namespace Naming

variable {naming : Naming}

theorem propertyMethod_snake_inj : snake.propertyMethod p = snake.propertyMethod q ↔ p = q :=
  String.append_right_inj _

theorem propertyMethod_camel_eq_iff (hne : p ≠ q) :
    camel.propertyMethod p = camel.propertyMethod q ↔ SharesCapital p q :=
  (String.append_right_inj _).trans (capitalize_eq_iff hne)

theorem with_isPrefix_propertyMethod :
    "with".toList <+: (naming.propertyMethod p).toList := by
  cases naming with
  | snake =>
      rw [propertyMethod, String.toList_append]
      exact ⟨'_' :: p.toList, rfl⟩
  | camel =>
      rw [propertyMethod, String.toList_append]
      exact List.prefix_append _ _

end Naming

namespace MatcherSpec

variable (naming : Naming) (generatorName : String) (type : StructType) {properties : List String}

/-- The names of the fluent methods. -/
def fluentNames (spec : MatcherSpec) : List String :=
  spec.propertyMethods.map (·.name)

/-- The names of the constructor and of the methods of the protocol. -/
def fixedNames (spec : MatcherSpec) : List String :=
  spec.constructorName :: spec.protocolMethods.map (·.operation.methodName)

theorem fluentNames_build : (build naming generatorName type properties).fluentNames =
    properties.map naming.propertyMethod :=
  List.map_map

theorem not_isPrefix_of_mem_fixedNames {name : String}
    (h : name ∈ (build naming generatorName type properties).fixedNames) :
    ¬"with".toList <+: name.toList := by
  have hfixed : ∀ name ∈ ["new", "describe_to", "matches_safely", "describe_mismatch_safely"],
      ¬"with".toList <+: name.toList := by
    decide
  exact hfixed name h

theorem nodup_fluentNames_snake (hproperties : properties.Nodup) :
    (build .snake generatorName type properties).fluentNames.Nodup := by
  rw [fluentNames_build]
  exact List.Nodup.map (fun _ _ => Naming.propertyMethod_snake_inj.1) hproperties

theorem nodup_fluentNames_camel_iff (hproperties : properties.Nodup) :
    (build .camel generatorName type properties).fluentNames.Nodup ↔
      properties.Pairwise fun p q => ¬SharesCapital p q := by
  rw [fluentNames_build, List.Nodup, List.pairwise_map]
  constructor
  · intro hnames
    exact hproperties.imp₂ (fun _ _ hne hname => hname ∘ (Naming.propertyMethod_camel_eq_iff hne).2)
      hnames
  · intro hcapitals
    exact hproperties.imp₂
      (fun _ _ hne hcapital => hcapital ∘ (Naming.propertyMethod_camel_eq_iff hne).1) hcapitals

/-- In both styles the names are different where all properties begin as is usual for fields. -/
theorem nodup_fluentNames_of_beginsSmall (hproperties : properties.Nodup)
    (hsmall : ∀ property ∈ properties, BeginsSmall property) :
    (build naming generatorName type properties).fluentNames.Nodup := by
  cases naming with
  | snake => exact nodup_fluentNames_snake generatorName type hproperties
  | camel =>
      refine (nodup_fluentNames_camel_iff generatorName type hproperties).2 ?_
      exact hproperties.imp_of_mem fun hp hq hne =>
        not_sharesCapital_of_beginsSmall (hsmall _ hp) (hsmall _ hq) hne

theorem notMem_fixedNames {name : String}
    (h : name ∈ (build naming generatorName type properties).fluentNames) :
    name ∉ (build naming generatorName type properties).fixedNames := by
  rw [fluentNames_build] at h
  obtain ⟨property, -, rfl⟩ := List.mem_map.1 h
  exact fun hfixed => not_isPrefix_of_mem_fixedNames naming generatorName type hfixed
    Naming.with_isPrefix_propertyMethod

/-- Different properties have methods of different names in the style with underscores, and in the
style with capitals exactly if no two of them share their capital.  In both styles no fluent method
is named like the constructor or a method of the protocol. -/
theorem fluentNames_distinct_iff (hproperties : properties.Nodup) :
    (build .snake generatorName type properties).fluentNames.Nodup ∧
      ((build .camel generatorName type properties).fluentNames.Nodup ↔
        properties.Pairwise fun p q => ¬SharesCapital p q) ∧
      ∀ naming, ∀ name ∈ (build naming generatorName type properties).fluentNames,
        name ∉ (build naming generatorName type properties).fixedNames :=
  ⟨nodup_fluentNames_snake generatorName type hproperties,
    nodup_fluentNames_camel_iff generatorName type hproperties,
    fun naming _ => notMem_fixedNames naming generatorName type⟩

/-- A type with properties. -/
def account : StructType := ⟨"Account", .root, none⟩

/-- Two properties that stay different when they are capitalised. -/
theorem fluentNames_distinct_account :
    ["id", "owner"].Nodup ∧
      ["id", "owner"].Pairwise (fun p q => ¬SharesCapital p q) ∧
      (build .camel defaultGeneratorName account ["id", "owner"]).fluentNames =
        ["withId", "withOwner"] := by
  have hproperties : ["id", "owner"].Nodup := by decide
  have hnames : (build .camel defaultGeneratorName account
      ["id", "owner"]).fluentNames = ["withId", "withOwner"] := by
    decide
  obtain ⟨-, hdistinct, -⟩ :=
    fluentNames_distinct_iff defaultGeneratorName account hproperties
  refine ⟨hproperties, hdistinct.1 ?_, hnames⟩
  rw [hnames]
  decide

/-- Two properties that differ in the case of their first characters have methods of one name. -/
theorem fluentNames_collide_id :
    ["id", "Id"].Nodup ∧
      (build .camel defaultGeneratorName account ["id", "Id"]).fluentNames =
        ["withId", "withId"] ∧
      ¬(build .camel defaultGeneratorName account ["id", "Id"]).fluentNames.Nodup := by
  decide

end MatcherSpec

end StructMatch
