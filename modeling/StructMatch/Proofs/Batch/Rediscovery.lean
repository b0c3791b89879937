import StructMatch.Proofs.Batch.Exactness

/-!
# Discovering again

A discovery takes the first type of each full path among those of all files that it comes upon,
`discover_eq_ok_iff_selected`, and types that do not come first may be left out,
`sortedByName_filter`.  So after files were written it finds the same types, provided that none of
them was declared where they were written, and that what stands there now names a generator:
`discover_of_writesWithin`.
-/

namespace StructMatch

open FileTree

/-! ## Types that come first -/

section First

variable {types others : List StructType}

/-- Lists that are put together may be sorted before. -/
theorem sortedByName_flatMap {α : Type} (f : α → List StructType) (as : List α) :
    sortedByName (as.flatMap fun a => sortedByName (f a)) = sortedByName (as.flatMap f) := by
  refine sortedByName_congr fun type => ?_
  have hnone (a : α) : (∀ other ∈ sortedByName (f a), other.qualifiedName ≠ type.qualifiedName) ↔
      ∀ other ∈ f a, other.qualifiedName ≠ type.qualifiedName := by
    have hname : (∃ other ∈ sortedByName (f a), other.qualifiedName = type.qualifiedName) ↔
        ∃ other ∈ f a, other.qualifiedName = type.qualifiedName := exists_mem_sortedByName
    simpa using not_congr hname
  simp only [mem_firstByName_flatMap, hnone, mem_firstByName_sortedByName]
  simp only [mem_sortedByName]

/-- The first element that fits comes first still when others are left out. -/
theorem find?_filter_of_find? {α : Type} {keep fits : α → Bool} {as : List α}
    (h : ∀ a, as.find? fits = some a → keep a = true) :
    (as.filter keep).find? fits = as.find? fits := by
  cases hfirst : as.find? fits with
  | none =>
      exact List.find?_eq_none.2 fun a ha =>
        List.find?_eq_none.1 hfirst a (List.mem_of_mem_filter ha)
  | some first =>
      have hkept := h first hfirst
      obtain ⟨hfits, before, after, rfl, hbefore⟩ := List.find?_eq_some_iff_append.1 hfirst
      rw [List.filter_append, List.filter_cons_of_pos hkept]
      exact List.find?_eq_some_iff_append.2 ⟨hfits, before.filter keep, after.filter keep, rfl,
        fun a ha => hbefore a (List.mem_of_mem_filter ha)⟩

/-- Types that do not come first may be left out. -/
theorem sortedByName_filter {keep : StructType → Bool}
    (h : ∀ type ∈ sortedByName types, keep type = true) :
    sortedByName (types.filter keep) = sortedByName types := by
  refine sortedByName_congr fun type => ?_
  rw [mem_firstByName_iff, mem_firstByName_iff, find?_filter_of_find?]
  intro first hfirst
  have hname : first.qualifiedName = type.qualifiedName := by simpa using List.find?_some hfirst
  refine h first (mem_sortedByName.2 (mem_firstByName_iff.2 ?_))
  rw [hname, hfirst]

end First

/-! ## The files of a discovery -/

/-- Files may be left out of which nothing is kept. -/
theorem flatMap_filter_eq {α β : Type} {keep : α → Bool} {f g : α → List β} {as : List α}
    (hkept : ∀ a ∈ as, keep a = true → f a = g a) (hleft : ∀ a ∈ as, keep a = false → g a = []) :
    (as.filter keep).flatMap f = as.flatMap g := by
  induction as with
  | nil => rfl
  | cons a as ih =>
      rw [List.forall_mem_cons] at hkept hleft
      have hrest := ih hkept.2 hleft.2
      cases ha : keep a with
      | false =>
          rw [List.filter_cons_of_neg (by simpa using ha), List.flatMap_cons, hleft.1 ha, hrest,
            List.nil_append]
      | true =>
          rw [List.filter_cons_of_pos ha, List.flatMap_cons, List.flatMap_cons, hkept.1 ha, hrest]

/-- A type is declared in the file that it was found in. -/
theorem declaration_of_mem_selectedTypes {root : Path} {base : ModulePath} {packages : List String}
    {way : Location} {content : Content} {type : StructType}
    (h : type ∈ selectedTypes root base packages (way, content)) :
    ∃ modules, type.declaration? = some ⟨pathBelow root way, modules⟩ := by
  obtain ⟨-, text, -, -, -, -, modules, -, -, -, -, -, -, -, hplace⟩ := mem_selectedTypes.1 h
  exact ⟨modules, hplace⟩

namespace BatchSettings

variable (settings : BatchSettings) {tree tree' : FileTree} {cwd : Location}
  {types : List StructType} {written : List Location}

/-- The types that a discovery chooses from. -/
def selected (tree : FileTree) (cwd : Location) : List StructType :=
  settings.effectiveScanPaths.flatMap fun root => (tree.walk cwd root).flatMap
    (selectedTypes root (.parse "crate") settings.effectivePackages)

/-- A discovery finds the first type of each full path among those of all files. -/
theorem discover_eq_ok_iff_selected : (settings.discover tree cwd).result = .ok types ↔
    (∀ root ∈ settings.effectiveScanPaths, tree.isDirectory cwd root = true) ∧
      types = sortedByName (settings.selected tree cwd) := by
  have hbelow : settings.typesBelow tree cwd = fun root => sortedByName
      ((tree.walk cwd root).flatMap
        (selectedTypes root (.parse "crate") settings.effectivePackages)) :=
    funext fun root => scanFiles_eq_sortedByName root _ _ _
  rw [settings.discover_eq_ok_iff, hbelow, sortedByName_flatMap, selected]

/-- The types of the files that were not written. -/
def selectedElsewhere (written : List Location) (tree : FileTree) (cwd : Location) :
    List StructType :=
  settings.effectiveScanPaths.flatMap fun root =>
    ((tree.walk cwd root).filter fun file =>
      decide (root.location cwd ++ file.1 ∉ written)).flatMap
        (selectedTypes root (.parse "crate") settings.effectivePackages)

/-- What stands where files were written is nothing that a discovery chooses from, if it was
generated. -/
theorem selected_eq_of_isGenerated (hlawful : tree.Lawful)
    (hroots : ∀ root ∈ settings.effectiveScanPaths, tree.isDirectory cwd root = true)
    (h : ∀ place ∈ written, ∀ content, tree.entryAt? place = some (.file content) →
      content.isGenerated = true) :
    settings.selectedElsewhere written tree cwd = settings.selected tree cwd := by
  refine List.flatMap_congr fun root hroot => ?_
  refine flatMap_filter_eq (fun _ _ _ => rfl) ?_
  rintro ⟨way, content⟩ hfile hwritten
  have hentry := ((hlawful.mem_walk (hroots root hroot)).1 hfile).2
  have hgenerated := h _ (by simpa using hwritten) content hentry
  rw [selectedTypes, scanFile_of_isGenerated hgenerated]
  simp

/-- Whether a type is declared in a file that was not written. -/
def declaredElsewhere (written : List Location) (cwd : Location) (type : StructType) : Bool :=
  type.declaration?.all fun declaration => decide (declaration.file.location cwd ∉ written)

/-- The types of the files that were not written are those that are declared in such files. -/
theorem selectedElsewhere_eq_filter (hlawful : tree.Lawful)
    (hroots : ∀ root ∈ settings.effectiveScanPaths, tree.isDirectory cwd root = true) :
    settings.selectedElsewhere written tree cwd =
      (settings.selected tree cwd).filter (declaredElsewhere written cwd) := by
  rw [selected, List.filter_flatMap]
  refine List.flatMap_congr fun root hroot => ?_
  rw [List.filter_flatMap]
  have hplace {way : Location} {content : Content} (hfile : (way, content) ∈ tree.walk cwd root)
      {type : StructType} (htype : type ∈ selectedTypes root (.parse "crate")
        settings.effectivePackages (way, content)) :
      declaredElsewhere written cwd type = decide (root.location cwd ++ way ∉ written) := by
    have hentry := ((hlawful.mem_walk (hroots root hroot)).1 hfile).2
    have hway : ∀ name ∈ way, IsFileName name := fun name hname =>
      hlawful.isFileName_of_entry hentry name (List.mem_append_right _ hname)
    obtain ⟨modules, hmodules⟩ := declaration_of_mem_selectedTypes htype
    rw [declaredElsewhere, hmodules, Option.all_some, location_pathBelow root cwd hway]
  refine flatMap_filter_eq ?_ ?_
  · rintro ⟨way, content⟩ hfile hkept
    exact (List.filter_eq_self.2 fun type htype => (hplace hfile htype).trans hkept).symm
  · rintro ⟨way, content⟩ hfile hleft
    refine List.filter_eq_nil_iff.2 fun type htype => ?_
    rw [hplace hfile htype, hleft]
    decide

/-! ## After files were written -/

/-- The files that were not written are the same before and after. -/
theorem selectedElsewhere_of_writesWithin (hlawful : tree.Lawful) (hlawful' : tree'.Lawful)
    (hwrites : WritesWithin written tree tree')
    (hroots : ∀ root ∈ settings.effectiveScanPaths, tree.isDirectory cwd root = true) :
    settings.selectedElsewhere written tree' cwd = settings.selectedElsewhere written tree cwd := by
  refine List.flatMap_congr fun root hroot => ?_
  obtain ⟨-, location, hlocate, -⟩ := isDirectory_iff.1 (hroots root hroot)
  obtain rfl : location = root.location cwd := locate_eq_along hlocate
  rw [walk, walk, hlocate, hwrites.locate hlocate]
  congr 1
  refine filter_filesBelow_congr hlawful hlawful'
    (fun way => decide (root.location cwd ++ way ∉ written)) fun way content hway => ?_
  exact hwrites.entryAt?_file_iff (of_decide_eq_true hway)

/-- A discovery finds the same types after files were written, if none of them was declared where
they were written, and what stands there now was generated. -/
theorem discover_of_writesWithin (hlawful : tree.Lawful) (hlawful' : tree'.Lawful)
    (hwrites : WritesWithin written tree tree')
    (hsources : ∀ type ∈ types, ∀ declaration, type.declaration? = some declaration →
      declaration.file.location cwd ∉ written)
    (hgenerated : ∀ place ∈ written, ∀ content, tree'.entryAt? place = some (.file content) →
      content.isGenerated = true)
    (h : (settings.discover tree cwd).result = .ok types) :
    (settings.discover tree' cwd).result = .ok types := by
  obtain ⟨hroots, rfl⟩ := settings.discover_eq_ok_iff_selected.1 h
  have hroots' : ∀ root ∈ settings.effectiveScanPaths, tree'.isDirectory cwd root = true :=
    fun root hroot => hwrites.isDirectory (hroots root hroot)
  refine settings.discover_eq_ok_iff_selected.2 ⟨hroots', ?_⟩
  have hkept : ∀ type ∈ sortedByName (settings.selected tree cwd),
      declaredElsewhere written cwd type = true := by
    intro type htype
    cases hdeclaration : type.declaration? with
    | none => simp [declaredElsewhere, hdeclaration]
    | some declaration =>
        simpa [declaredElsewhere, hdeclaration] using hsources type htype declaration hdeclaration
  rw [← settings.selected_eq_of_isGenerated hlawful' hroots' hgenerated,
    settings.selectedElsewhere_of_writesWithin hlawful hlawful' hwrites hroots,
    settings.selectedElsewhere_eq_filter hlawful hroots, sortedByName_filter hkept]

end BatchSettings

end StructMatch
