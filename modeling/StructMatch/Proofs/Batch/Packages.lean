import StructMatch.Proofs.Batch.Exactness
import StructMatch.Proofs.ModulePath

/-!
# Packages

A package is named by the text of a module, and the types in it are those whose module is that one
or lies in it.  As texts and paths tell the same, `display_faithful`, the text of every module
around a type selects it, and a text that stops inside of a segment does not.

A scan picks the types of the packages before it keeps the first type of each full path.  Types with
the same full path lie in the same module, though, where no colon comes into a name, so this is the
same as to pick them from what a scan of the whole crate finds: `scan_selects`.
-/

namespace StructMatch

open Source

/-! ## Texts that select a type -/

section Texts

open ModulePath

variable {packages : List String} {package : String} {type : StructType} {p q : ModulePath}

theorem trim_display_ne_nil (p : ModulePath) : Text.trim p.display.toList ≠ [] := by
  have hcrate : "crate".toList = 'c' :: "rate".toList := by decide
  rw [toList_display, hcrate, List.cons_append]
  exact Text.trim_cons_ne_nil (by decide) _

/-- The text of every module around a type selects the type. -/
theorem inPackages_of_textWithin (hp : type.modulePath.IsPlain) (hpackage : package ∈ packages)
    (h : TextWithin type.namespaceText package) : inPackages packages type = true := by
  obtain ⟨q, haround, rfl⟩ := exists_of_textWithin hp h
  refine inPackages_iff.2 ⟨_, hpackage, trim_display_ne_nil q, ?_⟩
  rwa [parse_display (hp.of_isPrefix haround)]

/-- The text of a module selects the types whose modules are within it. -/
theorem inPackages_display_iff (hp : type.modulePath.IsPlain) (hq : q.IsPlain) :
    inPackages [q.display] type = true ↔ TextWithin type.namespaceText q.display := by
  refine ⟨fun h => ?_, inPackages_of_textWithin hp List.mem_cons_self⟩
  obtain ⟨package, hpackage, -, haround⟩ := inPackages_iff.1 h
  rw [List.mem_singleton.1 hpackage, parse_display hq] at haround
  exact textWithin_of_isPrefix haround

/-- Paths can be told from their texts, types from their full paths, and the modules around a module
from what its text begins with.  So the text of every module around a type is a package that selects
it, and no other text of a module is. -/
theorem display_faithful (hp : p.IsPlain) (hq : q.IsPlain) :
    parse p.display = p ∧
    (∀ a b : StructType, a.modulePath = p → b.modulePath = q →
      ':' ∉ a.name.toList → ':' ∉ b.name.toList →
      (a.qualifiedName = b.qualifiedName ↔ a.modulePath = b.modulePath ∧ a.name = b.name)) ∧
    (p.startsWith q = true ↔ TextWithin p.display q.display) ∧
    ∀ type : StructType, type.modulePath = p →
      (∀ packages, ∀ package ∈ packages, TextWithin type.namespaceText package →
        inPackages packages type = true) ∧
      (inPackages [q.display] type = true ↔ TextWithin type.namespaceText q.display) := by
  refine ⟨parse_display hp, ?_, startsWith_iff hp hq, ?_⟩
  · rintro a b rfl rfl ha hb
    exact StructType.qualifiedName_eq_iff_of_append [] rfl rfl
      (fun segment hsegment => (hp.segments segment hsegment).no_colon)
      (fun segment hsegment => (hq.segments segment hsegment).no_colon) ha hb
  · rintro type rfl
    exact ⟨fun packages package hpackage => inPackages_of_textWithin hp hpackage,
      inPackages_display_iff hp hq⟩

end Texts

/-- A type in a module. -/
def nestedUser : StructType := ⟨"User", ⟨["models", "user"]⟩, none⟩

/-- The type is selected by the text of the module around its own, and not by a text that stops
inside of a segment. -/
theorem display_faithful_nestedUser :
    nestedUser.modulePath.IsPlain ∧ (⟨["model"]⟩ : ModulePath).IsPlain ∧
    ModulePath.parse "crate::models::user" = nestedUser.modulePath ∧
    inPackages ["crate::models"] nestedUser = true ∧
    inPackages ["crate::model"] nestedUser = false := by
  have hp : nestedUser.modulePath.IsPlain := by decide
  have hq : (⟨["model"]⟩ : ModulePath).IsPlain := by decide
  obtain ⟨hparse, -, hstarts, hselects⟩ := display_faithful hp hq
  obtain ⟨haround, hmodel⟩ := hselects nestedUser rfl
  refine ⟨hp, hq, hparse, haround _ _ List.mem_cons_self (Or.inr ⟨"user", by decide⟩), ?_⟩
  exact Bool.eq_false_iff.2 fun h => absurd (hstarts.2 (hmodel.1 h)) (by decide)

/-! ## Types with the same full path -/

section SameName

variable {root : Path} {base : ModulePath} {way : Location} {text : String} {type : StructType}
  {types : List StructType} {keep : StructType → Bool}

/-- Structs and the modules around them are named by identifiers. -/
theorem DeclaresStruct.isIdentifier {items : List Item} {modules : List String} {name : String}
    (h : DeclaresStruct items modules name) :
    (∀ module ∈ modules, Text.isIdentifier module.toList = true) ∧
      Text.isIdentifier name.toList = true := by
  induction h with
  | @struct _ item => exact ⟨by simp, item.name.isWord⟩
  | @module _ _ module _ _ _ _ ih => exact ⟨List.forall_mem_cons.2 ⟨module.isWord, ih.1⟩, ih.2⟩

/-- Where no name of a file or directory has a colon, none comes into what a file adds to the full
paths of its types. -/
theorem FileDeclares.exists_inner (h : FileDeclares root base way text type)
    (hway : ∀ name ∈ way, ':' ∉ name.toList) : ':' ∉ type.name.toList ∧
    ∃ inner, type.modulePath.segments = base.segments ++ inner ∧
      ∀ segment ∈ inner, ':' ∉ segment.toList := by
  obtain ⟨dirs, stem, items, modules, rfl, -, -, -, -, hstruct, hsegments, -⟩ := h
  have hidentifier {name : String} (hname : Text.isIdentifier name.toList = true) :
      ':' ∉ name.toList := notMem_of_isIdentifier hname (by decide) (by decide)
  have hstem : ':' ∉ stem.toList := by
    intro hmem
    refine hway (stem ++ ".rs") (by simp) ?_
    rw [String.toList_append]
    exact List.mem_append_left _ hmem
  refine ⟨hidentifier hstruct.isIdentifier.2, _, by rw [hsegments, List.append_assoc,
    List.append_assoc], fun segment hsegment => ?_⟩
  rcases List.mem_append.1 hsegment with hdir | hinner
  · exact hway segment (List.mem_append_left _ hdir)
  · rcases List.mem_append.1 hinner with hfile | hmodule
    · split at hfile
      · exact absurd hfile List.not_mem_nil
      · rwa [List.mem_singleton.1 hfile]
    · exact hidentifier (hstruct.isIdentifier.1 segment hmodule)

/-- Types of one crate that have the same full path lie in the same module. -/
theorem modulePath_eq_of_fileDeclares {way' : Location} {text' : String} {other : StructType}
    (h : FileDeclares root base way text type) (hway : ∀ name ∈ way, ':' ∉ name.toList)
    (h' : FileDeclares root base way' text' other) (hway' : ∀ name ∈ way', ':' ∉ name.toList)
    (hname : type.qualifiedName = other.qualifiedName) : type.modulePath = other.modulePath := by
  obtain ⟨hown, inner, hsegments, hinner⟩ := h.exists_inner hway
  obtain ⟨hown', inner', hsegments', hinner'⟩ := h'.exists_inner hway'
  exact ((StructType.qualifiedName_eq_iff_of_append _ hsegments hsegments' hinner hinner' hown
    hown').1 hname).1

/-- The first type of each full path is picked from those that are kept, if it depends on the full
path whether a type is kept. -/
theorem firstByName_filter (h : ∀ a ∈ types, ∀ b ∈ types,
    a.qualifiedName = b.qualifiedName → keep a = keep b) :
    firstByName (types.filter keep) = (firstByName types).filter keep := by
  induction types with
  | nil => rfl
  | cons type types ih =>
      have hrest := ih fun a ha b hb =>
        h a (List.mem_cons_of_mem _ ha) b (List.mem_cons_of_mem _ hb)
      rw [firstByName]
      cases hkeep : keep type with
      | true =>
          rw [List.filter_cons_of_pos hkeep, List.filter_cons_of_pos hkeep, firstByName, hrest,
            List.filter_filter, List.filter_filter]
          simp only [Bool.and_comm]
      | false =>
          have hnone : ¬ keep type = true := by simp [hkeep]
          rw [List.filter_cons_of_neg hnone, List.filter_cons_of_neg hnone, hrest,
            List.filter_filter]
          -- no type that is kept has the full path of this one
          refine List.filter_congr fun other hother => ?_
          have hsame : other.qualifiedName = type.qualifiedName → keep other = false :=
            fun hname => (h other (List.mem_cons_of_mem _ (mem_of_mem_firstByName hother)) type
              List.mem_cons_self hname).trans hkeep
          by_cases hname : other.qualifiedName = type.qualifiedName
          · simp [hsame hname]
          · simp [hname]

theorem filter_sortedByName (h : ∀ a ∈ types, ∀ b ∈ types,
    a.qualifiedName = b.qualifiedName → keep a = keep b) :
    sortedByName (types.filter keep) = (sortedByName types).filter keep := by
  have hordered := (pairwise_sortedByName types).filter keep
  rw [← sortedByName_of_pairwise hordered]
  refine sortedByName_congr fun type => ?_
  have hfirst : type ∈ firstByName ((sortedByName types).filter keep) ↔
      type ∈ (sortedByName types).filter keep := by
    rw [← mem_sortedByName, sortedByName_of_pairwise hordered]
  rw [firstByName_filter h, hfirst, List.mem_filter, List.mem_filter, mem_sortedByName]

end SameName

/-! ## Scans with packages -/

/-- How the types that a scan finds depend on its packages.  A blank name is no package, and neither
the order of the packages counts nor how often they are written or whether `crate` stands before
them. -/
structure SelectsByPackage (scan : List String → List StructType) : Prop where
  filters : ∀ packages, scan packages = (scan ["crate"]).filter (inPackages packages)
  ordered : ∀ packages, (scan packages).Pairwise fun a b => a.qualifiedName < b.qualifiedName
  union : ∀ packages others type,
    type ∈ scan (packages ++ others) ↔ type ∈ scan packages ∨ type ∈ scan others
  reordered : ∀ packages others, packages.Perm others → scan packages = scan others
  repeated : ∀ packages, ∀ package ∈ packages, scan (package :: packages) = scan packages
  blank : ∀ packages package, Text.trim package.toList = [] →
    scan (package :: packages) = scan packages
  crateOmitted : ∀ packages package, Text.trim package.toList ≠ [] →
    scan (("crate::" ++ package) :: packages) = scan (package :: packages)

section Select

variable {root : Path} {base : ModulePath} {packages others : List String} {type : StructType}

theorem liesInPackages_append :
    LiesInPackages (packages ++ others) type ↔
      LiesInPackages packages type ∨ LiesInPackages others type := by
  simp [LiesInPackages, or_and_right, exists_or]

theorem liesInPackages_cons {package : String} :
    LiesInPackages (package :: packages) type ↔ (Text.trim package.toList ≠ [] ∧
      (ModulePath.parse package).segments <+: type.modulePath.segments) ∨
        LiesInPackages packages type := by
  simp [LiesInPackages]

/-- All types lie in the crate. -/
theorem inPackages_crate (type : StructType) : inPackages ["crate"] type = true :=
  inPackages_iff.2 (liesInPackages_cons.2 (Or.inl ⟨by decide, List.nil_prefix⟩))

/-- A scan that filters what it finds in the whole crate selects by package. -/
theorem SelectsByPackage.of_filters {scan : List String → List StructType}
    (hfilters : ∀ packages, scan packages = (scan ["crate"]).filter (inPackages packages))
    (hordered : (scan ["crate"]).Pairwise fun a b => a.qualifiedName < b.qualifiedName) :
    SelectsByPackage scan := by
  have hcongr {packages others : List String}
      (h : ∀ type, LiesInPackages packages type ↔ LiesInPackages others type) :
      scan packages = scan others := by
    rw [hfilters packages, hfilters others]
    refine List.filter_congr fun type _ => Bool.eq_iff_iff.2 ?_
    rw [inPackages_iff, inPackages_iff, h]
  refine ⟨hfilters, ?_, ?_, ?_, ?_, ?_, ?_⟩
  · intro packages
    rw [hfilters]
    exact hordered.filter _
  · intro packages others type
    rw [hfilters packages, hfilters others, hfilters (packages ++ others)]
    simp only [List.mem_filter, inPackages_iff, liesInPackages_append, and_or_left]
  · intro packages others hperm
    exact hcongr fun type => exists_congr fun package => and_congr_left' hperm.mem_iff
  · intro packages package hpackage
    exact hcongr fun type => liesInPackages_cons.trans
      (or_iff_right_of_imp fun h => ⟨package, hpackage, h⟩)
  · intro packages package hblank
    exact hcongr fun type => liesInPackages_cons.trans (or_iff_right fun h => h.1 hblank)
  · intro packages package hnonblank
    have hcrate : Text.trim ("crate::" ++ package).toList ≠ [] := by
      have hc : "crate::".toList = 'c' :: "rate::".toList := by decide
      rw [String.toList_append, hc, List.cons_append]
      exact Text.trim_cons_ne_nil (by decide) _
    refine hcongr fun type => ?_
    rw [liesInPackages_cons, liesInPackages_cons, ModulePath.parse_crate_append,
      and_iff_right hcrate, and_iff_right hnonblank]

theorem selectedTypes_eq_filter (root : Path) (base : ModulePath) (packages : List String)
    (file : Location × Content) : selectedTypes root base packages file =
      (selectedTypes root base ["crate"] file).filter (inPackages packages) := by
  unfold selectedTypes
  split
  · rw [List.filter_eq_self.2 fun type _ => inPackages_crate type]
  · rfl

/-- A scan of files whose names have no colons selects by package. -/
theorem selectsByPackage_scanFiles {files : List (Location × Content)}
    (hcolon : ∀ file ∈ files, ∀ name ∈ file.1, ':' ∉ name.toList) (root : Path)
    (base : ModulePath) :
    SelectsByPackage fun packages => (scanFiles root base packages files).result := by
  simp only [scanFiles_eq_sortedByName]
  refine .of_filters (fun packages => ?_) (pairwise_sortedByName _)
  rw [← filter_sortedByName, List.filter_flatMap]
  · simp only [← selectedTypes_eq_filter]
  · intro a ha b hb hname
    obtain ⟨⟨way, content⟩, hfile, ha⟩ := List.mem_flatMap.1 ha
    obtain ⟨⟨way', content'⟩, hfile', hb⟩ := List.mem_flatMap.1 hb
    obtain ⟨-, text, -, hdeclares⟩ := mem_selectedTypes.1 ha
    obtain ⟨-, text', -, hdeclares'⟩ := mem_selectedTypes.1 hb
    have hmodule := modulePath_eq_of_fileDeclares hdeclares (hcolon _ hfile) hdeclares'
      (hcolon _ hfile') hname
    rw [inPackages, inPackages, hmodule]

/-- Where no file or directory below the directory of a scan has a colon in its name, the scan finds
the types that a scan of the whole crate finds in the packages, in whatever order it comes upon the
files. -/
theorem scan_selects {tree : FileTree} {cwd : Location} {root : Path}
    (hcolon : ∀ file ∈ tree.walk cwd root, ∀ name ∈ file.1, ':' ∉ name.toList)
    (crateModule : String) :
    (∀ packages, (scanDirectory tree cwd root crateModule packages).map (·.result) =
      (scanDirectory tree cwd root crateModule ["crate"]).map fun scan =>
        scan.result.filter (inPackages packages)) ∧
    ∀ order, order.Perm (tree.walk cwd root) → SelectsByPackage fun packages =>
      (scanFiles root (.parse crateModule) packages order).result := by
  refine ⟨fun packages => ?_, fun order horder => ?_⟩
  · unfold scanDirectory
    split
    · exact congrArg some ((selectsByPackage_scanFiles hcolon root _).filters packages)
    · rfl
  · exact selectsByPackage_scanFiles (fun file hfile => hcolon file (horder.mem_iff.1 hfile)) root _

end Select

/-- Of a crate in which two files declare the same full path, a scan with packages finds a part of
what it finds without, and in another order of the files it does not matter how the packages are
written either. -/
theorem scan_selects_layeredCrate :
    (∀ file ∈ layeredCrate.walk [] ⟨"src"⟩, ∀ name ∈ file.1, ':' ∉ name.toList) ∧
    (scanDirectory layeredCrate [] ⟨"src"⟩ "crate" ["api", " "]).map (·.result) =
      (scanDirectory layeredCrate [] ⟨"src"⟩ "crate" ["crate"]).map (fun scan =>
        scan.result.filter (inPackages ["api", " "])) ∧
    (scanFiles ⟨"src"⟩ .root [" ", "crate::models", "api"]
        (layeredCrate.walk [] ⟨"src"⟩).reverse).result =
      (scanFiles ⟨"src"⟩ .root ["api", "models"]
        (layeredCrate.walk [] ⟨"src"⟩).reverse).result := by
  have hwalk : layeredCrate.walk [] ⟨"src"⟩ =
      layeredCrate.entries.filterMap (FileTree.listed? ["src"]) :=
    FileTree.walk_of_pairwise (by decide +kernel) (by decide +kernel)
  have hcolon : ∀ file ∈ layeredCrate.walk [] ⟨"src"⟩, ∀ name ∈ file.1, ':' ∉ name.toList := by
    rw [hwalk]
    decide +kernel
  obtain ⟨hpackages, horders⟩ := scan_selects hcolon "crate"
  have hselects := horders _ (List.reverse_perm _)
  refine ⟨hcolon, hpackages _, ?_⟩
  calc _ = (scanFiles ⟨"src"⟩ .root ["crate::models", "api"] _).result :=
        hselects.blank _ _ (by decide)
    _ = (scanFiles ⟨"src"⟩ .root ["models", "api"] _).result :=
        hselects.crateOmitted ["api"] "models" (by decide)
    _ = _ := hselects.reordered _ _ (by decide)

end StructMatch
