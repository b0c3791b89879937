import StructMatch.Proofs.Batch.Library

/-!
# Reading the fields of a scanned type

A type that a scan reports stands for one struct of its file, the first that is reported as this
type.  Its fields are read later and by another pass, which takes the first struct in the same
modules that is spelled like the type.  The two passes mean the same struct unless the struct is
spelled with the mark of a raw identifier, or the scan has left out one of the same name before it:
`fieldsOf_scanned`.  Both happen, `fieldsOf_misses`.
-/

namespace StructMatch

open Source FileTree

/-! ## The struct that a type stands for -/

/-- A struct of a source file with the structs before and after it. -/
structure Finding where
  way : Location
  text : String
  items : List Item
  before : List PlacedStruct
  found : PlacedStruct
  after : List PlacedStruct

namespace Finding

/-- Whether a scan records the struct as a type: it is the first of its file to be reported so. -/
structure Records (finding : Finding) (tree : FileTree) (cwd : Location) (root : Path)
    (base : ModulePath) (type : StructType) : Prop where
  walked : (finding.way, .text finding.text) ∈ tree.walk cwd root
  parsed : readFile? finding.text = some finding.items
  placed : placedStructs finding.items = finding.before ++ finding.found :: finding.after
  reported : finding.found.isReported = true
  declares : finding.found.type base (pathBelow root finding.way) finding.way = type
  first : ∀ earlier ∈ finding.before, earlier.isReported = true →
    earlier.type base (pathBelow root finding.way) finding.way ≠ type

/-- The struct that is looked up in the place of the one that was found. -/
def lookedUp? (finding : Finding) : Option PlacedStruct :=
  (placedStructs finding.items).find?
    (·.answersTo finding.found.modulePath finding.found.item.name.plain)

/-- The fields of a type once a struct has been looked up for it in its file. -/
def fieldsAt (type : StructType) (file : Path) :
    Option PlacedStruct → Except IntrospectionError (List Field)
  | none => .error (.notFound type.name file)
  | some placed =>
    if placed.item.isGeneric then .error (.generic type.qualifiedName)
    else .ok placed.item.namedFields

/-- Whether the struct is spelled as it is called, and none before it in the same modules is. -/
def IsPlain (finding : Finding) : Prop :=
  finding.found.item.name.text = finding.found.item.name.plain ∧
    ∀ earlier ∈ finding.before, earlier.modulePath = finding.found.modulePath →
      earlier.item.name.text ≠ finding.found.item.name.plain

variable {finding : Finding} {tree : FileTree} {cwd way : Location} {root : Path}
  {base : ModulePath} {type : StructType}

/-- The struct itself is looked up as long as it is plain, and only then. -/
theorem Records.lookedUp?_eq_some_iff (hrecords : finding.Records tree cwd root base type) :
    finding.lookedUp? = some finding.found ↔ finding.IsPlain := by
  have hplaced := hrecords.placed
  rw [lookedUp?, hplaced]
  constructor
  · intro hfind
    have hanswers := List.find?_some hfind
    rw [PlacedStruct.answersTo_iff] at hanswers
    refine ⟨hanswers.2, fun earlier hearlier hmodules htext => ?_⟩
    -- the first struct that fits is one of those before, so it is the same as the one found
    have hearlierAnswers : earlier.answersTo finding.found.modulePath
        finding.found.item.name.plain = true :=
      PlacedStruct.answersTo_iff.2 ⟨hmodules, htext⟩
    obtain ⟨first, hfirst⟩ : ∃ first, finding.before.find?
        (·.answersTo finding.found.modulePath finding.found.item.name.plain) = some first :=
      Option.isSome_iff_exists.1 (List.find?_isSome.2 ⟨earlier, hearlier, hearlierAnswers⟩)
    rw [List.find?_append, hfirst, Option.some_or] at hfind
    obtain rfl : first = finding.found := Option.some.inj hfind
    have hmem : finding.found ∈ finding.before := List.mem_of_find?_eq_some hfirst
    exact hrecords.first finding.found hmem hrecords.reported hrecords.declares
  · rintro ⟨htext, hbefore⟩
    have hnone : finding.before.find?
        (·.answersTo finding.found.modulePath finding.found.item.name.plain) = none := by
      rw [List.find?_eq_none]
      intro earlier hearlier hanswers
      obtain ⟨hmodules, hearlierText⟩ := PlacedStruct.answersTo_iff.1 hanswers
      exact hbefore earlier hearlier hmodules hearlierText
    rw [List.find?_append, hnone, Option.none_or, List.find?_cons_of_pos]
    exact PlacedStruct.answersTo_iff.2 ⟨rfl, htext⟩

/-- The file of the struct is read as it was when it was scanned. -/
theorem Records.readText (hrecords : finding.Records tree cwd root base type)
    (hlawful : tree.Lawful) (hroot : tree.isDirectory cwd root = true) :
    tree.readText cwd (pathBelow root finding.way) = .ok finding.text := by
  obtain ⟨hne, hentry⟩ := (hlawful.mem_walk hroot).1 hrecords.walked
  exact hlawful.readText_pathBelow hroot hne hentry

/-- The fields of a type are those of the struct that is looked up. -/
theorem Records.fieldsOf_eq (hrecords : finding.Records tree cwd root base type)
    (hlawful : tree.Lawful) (hroot : tree.isDirectory cwd root = true) :
    tree.fieldsOf cwd type = fieldsAt type (pathBelow root finding.way) finding.lookedUp? := by
  have hread := hrecords.readText hlawful hroot
  have hdeclaration : type.declaration? =
      some ⟨pathBelow root finding.way, finding.found.modulePath⟩ := by
    rw [← hrecords.declares]
    rfl
  have hname : type.name = finding.found.item.name.plain := by
    rw [← hrecords.declares]
    rfl
  rw [FileTree.fieldsOf, hdeclaration]
  simp only [hread, hrecords.parsed]
  rw [fieldsIn, findStruct?_eq, hname, ← lookedUp?]
  cases finding.lookedUp? with
  | none => simp [fieldsAt, hname]
  | some placed => simp [fieldsAt]

/-- A struct that a scan reports has no parameters. -/
theorem Records.isGeneric_eq_false (hrecords : finding.Records tree cwd root base type) :
    finding.found.item.isGeneric = false := by
  have hreported := hrecords.reported
  rw [PlacedStruct.isReported, Bool.not_eq_true', Bool.or_eq_false_iff, Bool.or_eq_false_iff]
    at hreported
  exact hreported.1.2

/-- Every type that a scan finds is recorded from a struct. -/
theorem exists_records {text : String} {items : List Item}
    (hfile : (way, .text text) ∈ tree.walk cwd root) (hparsed : readFile? text = some items)
    (htype : type ∈ typesOfItems base (pathBelow root way) way items) :
    ∃ finding : Finding, finding.Records tree cwd root base type := by
  rw [typesOfItems_eq] at htype
  obtain ⟨placed, hplaced, hdeclares⟩ := List.mem_map.1 htype
  obtain ⟨hmem, hreported⟩ := List.mem_filter.1 hplaced
  let records (placed : PlacedStruct) : Bool :=
    placed.isReported && decide (placed.type base (pathBelow root way) way = type)
  have hrecords : records placed = true := by
    simp [records, hreported, hdeclares]
  obtain ⟨found, hfound⟩ : ∃ found, (placedStructs items).find? records = some found :=
    Option.isSome_iff_exists.1 (List.find?_isSome.2 ⟨placed, hmem, hrecords⟩)
  obtain ⟨hfoundRecords, before, after, hsplit, hfirst⟩ := List.find?_eq_some_iff_append.1 hfound
  rw [Bool.and_eq_true, decide_eq_true_eq] at hfoundRecords
  refine ⟨⟨way, text, items, before, found, after⟩, hfile, hparsed, hsplit, hfoundRecords.1,
    hfoundRecords.2, fun earlier hearlier hearlierReported hearlierDeclares => ?_⟩
  have hnot := hfirst earlier hearlier
  simp [records, hearlierReported, hearlierDeclares] at hnot

/-- A list is split in one way only if neither element that it is split at comes before the
other one. -/
theorem split_unique {α : Type} {before before' after after' : List α} {a a' : α}
    (h : before' ++ a' :: after' = before ++ a :: after) (ha : a ∉ before') (ha' : a' ∉ before) :
    before' = before ∧ a' = a ∧ after' = after := by
  induction before generalizing before' with
  | nil =>
      cases before' with
      | nil =>
          obtain ⟨rfl, rfl⟩ := List.cons.inj h
          exact ⟨rfl, rfl, rfl⟩
      | cons first before' =>
          obtain ⟨rfl, -⟩ := List.cons.inj h
          exact absurd List.mem_cons_self ha
  | cons first before ih =>
      cases before' with
      | nil =>
          obtain ⟨rfl, -⟩ := List.cons.inj h
          exact absurd List.mem_cons_self ha'
      | cons first' before' =>
          obtain ⟨rfl, hrest⟩ := List.cons.inj h
          obtain ⟨rfl, hsame⟩ := ih hrest (fun hmem => ha (List.mem_cons_of_mem _ hmem))
            (fun hmem => ha' (List.mem_cons_of_mem _ hmem))
          exact ⟨rfl, hsame⟩

/-- A type is recorded from one struct only. -/
theorem Records.unique {other : Finding} (hrecords : finding.Records tree cwd root base type)
    (hother : other.Records tree cwd root base type) (hlawful : tree.Lawful)
    (hroot : tree.isDirectory cwd root = true) : other = finding := by
  obtain ⟨-, hentry⟩ := (hlawful.mem_walk hroot).1 hrecords.walked
  obtain ⟨-, hotherEntry⟩ := (hlawful.mem_walk hroot).1 hother.walked
  have hnames : ∀ name ∈ finding.way, IsFileName name := fun name hname =>
    hlawful.isFileName_of_entry hentry name (List.mem_append_right _ hname)
  have hotherNames : ∀ name ∈ other.way, IsFileName name := fun name hname =>
    hlawful.isFileName_of_entry hotherEntry name (List.mem_append_right _ hname)
  have hpath : pathBelow root other.way = pathBelow root finding.way := by
    have heq := hother.declares.trans hrecords.declares.symm
    rw [PlacedStruct.type, PlacedStruct.type, StructType.mk.injEq, Option.some.injEq,
      Declaration.mk.injEq] at heq
    exact heq.2.2.1
  have hway : other.way = finding.way := (pathBelow_inj hotherNames hnames).1 hpath
  obtain ⟨way, text, items, before, found, after⟩ := finding
  obtain ⟨way', text', items', before', found', after'⟩ := other
  obtain rfl : way' = way := hway
  obtain rfl : text' = text := by
    rw [hentry] at hotherEntry
    injection hotherEntry with hfile
    injection hfile with hcontent
    injection hcontent with htext
    exact htext.symm
  obtain rfl : items' = items := Option.some.inj (hother.parsed.symm.trans hrecords.parsed)
  -- a struct that came before the other would be the first one to be reported as the type
  have hsplit : before' ++ found' :: after' = before ++ found :: after :=
    hother.placed.symm.trans hrecords.placed
  have hnotBefore : found' ∉ before := fun hmem =>
    hrecords.first found' hmem hother.reported hother.declares
  have hnotBefore' : found ∉ before' := fun hmem =>
    hother.first found hmem hrecords.reported hrecords.declares
  obtain ⟨rfl, rfl, rfl⟩ := split_unique hsplit hnotBefore' hnotBefore
  rfl

end Finding

/-! ## The fields of a scanned type -/

/-- Every type that a scan finds is recorded from one struct.  Its fields are those of the first
struct that answers to it, and this is the struct itself just when it is plain. -/
theorem fieldsOf_scanned {tree : FileTree} {cwd : Location} {root : Path} {crateModule : String}
    {packages : List String} {scan : Logged (List StructType)} {type : StructType}
    (hlawful : tree.Lawful) (hscan : scanDirectory tree cwd root crateModule packages = some scan)
    (htype : type ∈ scan.result) :
    ∃ finding : Finding,
      (∀ other : Finding,
        other.Records tree cwd root (.parse crateModule) type ↔ other = finding) ∧
      tree.fieldsOf cwd type =
        Finding.fieldsAt type (pathBelow root finding.way) finding.lookedUp? ∧
      (finding.lookedUp? = some finding.found ↔ finding.IsPlain) ∧
      (finding.IsPlain → tree.fieldsOf cwd type = .ok finding.found.item.namedFields) := by
  unfold scanDirectory at hscan
  split at hscan
  · next hroot =>
      obtain rfl := Option.some.inj hscan
      obtain ⟨way, text, items, hfile, -, -, hparsed, htypes⟩ := mem_scanFiles htype
      obtain ⟨finding, hrecords⟩ := Finding.exists_records hfile hparsed htypes
      have hfields := hrecords.fieldsOf_eq hlawful hroot
      refine ⟨finding, fun other => ⟨fun hother => hrecords.unique hother hlawful hroot, ?_⟩,
        hfields, hrecords.lookedUp?_eq_some_iff, fun hplain => ?_⟩
      · rintro rfl
        exact hrecords
      · rw [hfields, hrecords.lookedUp?_eq_some_iff.2 hplain]
        simp [Finding.fieldsAt, hrecords.isGeneric_eq_false]
  · exact absurd hscan (by simp)

/-- The type of a crate is read from the struct that it was recorded from. -/
theorem fieldsOf_userCrate :
    ∃ finding : Finding, finding.Records userCrate [] ⟨"src/"⟩ (.parse "crate") userType ∧
      finding.IsPlain ∧ userCrate.fieldsOf [] userType = .ok finding.found.item.namedFields := by
  have hscan : scanDirectory userCrate [] ⟨"src/"⟩ "crate" ["crate"] =
      some (scanFiles ⟨"src/"⟩ (.parse "crate") ["crate"] (userCrate.walk [] ⟨"src/"⟩)) :=
    if_pos rfl
  have hfound : userType ∈ (scanFiles ⟨"src/"⟩ (.parse "crate") ["crate"]
      (userCrate.walk [] ⟨"src/"⟩)).result := by
    rw [isLibrary_userCrate.result_scanFiles hasLibrary_userCrate (List.pairwise_singleton _ _)]
    exact List.mem_singleton_self _
  have hlawful : userCrate.Lawful := lawful_crateOf _
  obtain ⟨finding, hunique, -, -, hfields⟩ := fieldsOf_scanned hlawful hscan hfound
  have hrecords := (hunique finding).2 rfl
  have hwalked := hrecords.walked
  rw [hasLibrary_userCrate.walk, List.mem_singleton, Prod.mk.injEq, Content.text.injEq] at hwalked
  let spelling (placed : PlacedStruct) : String × String :=
    (placed.item.name.text, placed.item.name.plain)
  have hspelled : (readFile? finding.text).map (fun items => (placedStructs items).map spelling) =
      some [("User", "User")] := by
    rw [hwalked.2]
    decide +kernel
  rw [hrecords.parsed, Option.map_some, hrecords.placed, Option.some_inj, List.map_append,
    List.map_cons] at hspelled
  have hbefore : finding.before = [] := by
    cases hlist : finding.before with
    | nil => rfl
    | cons first rest =>
        rw [hlist] at hspelled
        simp at hspelled
  rw [hbefore] at hspelled
  have hfound : spelling finding.found = ("User", "User") := (List.cons.inj hspelled).1
  have hplain : finding.IsPlain := by
    refine ⟨?_, by simp [hbefore]⟩
    rw [(Prod.mk.inj hfound).1, (Prod.mk.inj hfound).2]
  exact ⟨finding, hrecords, hplain, hfields hplain⟩

/-- A crate with a struct that is spelled with the mark of a raw identifier. -/
def rawCrate : FileTree := crateOf "pub struct r#type \x7b pub id: u64 \x7d"

/-- A crate with two structs of the same name, the first of which exists in tests only. -/
def mockedCrate : FileTree :=
  crateOf <| "#[cfg(test)] pub struct User \x7b mock: bool \x7d\n" ++
    "#[cfg(not(test))] pub struct User \x7b name: String \x7d"

theorem isLibrary_rawCrate : IsLibrary ⟨"src/"⟩ "pub struct r#type \x7b pub id: u64 \x7d"
    [("type", .error (.notFound "type" ⟨"src/lib.rs"⟩))] := by
  decide +kernel

theorem isLibrary_mockedCrate : IsLibrary ⟨"src/"⟩
    ("#[cfg(test)] pub struct User \x7b mock: bool \x7d\n" ++
      "#[cfg(not(test))] pub struct User \x7b name: String \x7d")
    [("User", .ok [⟨"mock", "bool"⟩])] := by
  decide +kernel

/-- A struct with a raw name is found by a scan, but not when its fields are read.  For a struct
after one of the same name in tests, the fields of the other one are read. -/
theorem fieldsOf_misses :
    (scanDirectory rawCrate [] ⟨"src/"⟩ "crate" ["crate"]).map (·.result) =
        some [libraryType "type"] ∧
      rawCrate.fieldsOf [] (libraryType "type") = .error (.notFound "type" ⟨"src/lib.rs"⟩) ∧
      (scanDirectory mockedCrate [] ⟨"src/"⟩ "crate" ["crate"]).map (·.result) =
        some [libraryType "User"] ∧
      mockedCrate.fieldsOf [] (libraryType "User") = .ok [⟨"mock", "bool"⟩] :=
  ⟨isLibrary_rawCrate.result_scanDirectory (hasLibrary_crateOf _) (List.pairwise_singleton _ _),
    isLibrary_rawCrate.fieldsOf (hasLibrary_crateOf _) List.mem_cons_self,
    isLibrary_mockedCrate.result_scanDirectory (hasLibrary_crateOf _)
      (List.pairwise_singleton _ _),
    isLibrary_mockedCrate.fieldsOf (hasLibrary_crateOf _) List.mem_cons_self⟩

end StructMatch
