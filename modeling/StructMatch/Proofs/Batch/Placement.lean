import StructMatch.Batch.Scan

/-!
# Structs in their places

The scan of a file and the look-up of a struct are two passes over the same items.  Both are put in
terms of one list, `placedStructs`, which has every struct of the items with the inline modules
around it, in the order in which they are written: the scan keeps those that are reported,
`itemsStructs_eq`, and the look-up takes the first one that fits, `findStruct?_eq`.
-/

namespace StructMatch

open Source Text

/-- A struct with the inline modules around it, from the outermost one on. -/
structure PlacedStruct where
  modules : List Word
  /-- Whether one of the modules exists in tests only. -/
  inTests : Bool
  item : StructItem

namespace PlacedStruct

/-- The same struct with one more module around it. -/
def within (name : Word) (isTestOnly : Bool) (placed : PlacedStruct) : PlacedStruct :=
  ⟨name :: placed.modules, isTestOnly || placed.inTests, placed.item⟩

/-- The names of the modules around the struct. -/
def modulePath (placed : PlacedStruct) : List String := placed.modules.map Word.plain

/-- Whether a scan reports the struct. -/
def isReported (placed : PlacedStruct) : Bool :=
  !(placed.inTests || placed.item.isGeneric || placed.item.isTestOnly)

/-- Whether a look-up in the given modules takes the struct for one of the given name.  It goes by
the name as it is spelled. -/
def answersTo (path : List String) (name : String) (placed : PlacedStruct) : Bool :=
  placed.modulePath = path && placed.item.name.text = name

theorem answersTo_iff {path : List String} {name : String} {placed : PlacedStruct} :
    placed.answersTo path name = true ↔
      placed.modulePath = path ∧ placed.item.name.text = name := by
  rw [answersTo, Bool.and_eq_true, decide_eq_true_eq, decide_eq_true_eq]

end PlacedStruct

mutual

/-- The structs of an item in their places. -/
def placedIn : Item → List PlacedStruct
  | .struct item => [⟨[], false, item⟩]
  | .module (.mk name isTestOnly content) =>
    match content with
    | none => []
    | some items => (placedStructs items).map (·.within name isTestOnly)
  | .other => []

/-- The structs of several items in their places. -/
def placedStructs : List Item → List PlacedStruct
  | [] => []
  | item :: rest => placedIn item ++ placedStructs rest

end

/-! ## The structs that are reported -/

theorem isReported_within_false (name : Word) (placed : PlacedStruct) :
    (placed.within name false).isReported = placed.isReported := rfl

theorem isReported_within_true (name : Word) (placed : PlacedStruct) :
    (placed.within name true).isReported = false := rfl

/-- What a scan reports of a struct inside the given modules. -/
def PlacedStruct.report (modules : List String) (placed : PlacedStruct) :
    List String × Word :=
  (modules ++ placed.modulePath, placed.item.name)

theorem report_within (modules : List String) (name : Word) (isTestOnly : Bool)
    (placed : PlacedStruct) :
    (placed.within name isTestOnly).report modules = placed.report (modules ++ [name.plain]) := by
  simp [PlacedStruct.report, PlacedStruct.within, PlacedStruct.modulePath]

mutual

/-- A scan of an item keeps the structs that are reported. -/
theorem itemStructs_eq (modules : List String) (item : Item) :
    itemStructs modules item =
      ((placedIn item).filter (·.isReported)).map (·.report modules) := by
  cases item with
  | struct item =>
      cases hgeneric : item.isGeneric <;> cases htest : item.isTestOnly <;>
        simp [itemStructs, placedIn, PlacedStruct.isReported, PlacedStruct.report,
          PlacedStruct.modulePath, hgeneric, htest]
  | module module =>
      obtain ⟨name, isTestOnly, content⟩ := module
      cases content with
      | none => simp [itemStructs, placedIn]
      | some items =>
          have hitems := itemsStructs_eq (modules ++ [name.plain]) items
          -- nothing inside a module for tests is reported
          cases isTestOnly with
          | true =>
              simp [itemStructs, placedIn, List.filter_map, Function.comp_def,
                isReported_within_true]
          | false =>
              simp [itemStructs, placedIn, hitems, List.filter_map, Function.comp_def,
                isReported_within_false, report_within]
  | other => simp [itemStructs, placedIn]

/-- A scan of several items keeps the structs that are reported. -/
theorem itemsStructs_eq (modules : List String) (items : List Item) :
    itemsStructs modules items =
      ((placedStructs items).filter (·.isReported)).map (·.report modules) := by
  cases items with
  | nil => simp [itemsStructs, placedStructs]
  | cons item rest =>
      rw [itemsStructs, placedStructs, List.filter_append, List.map_append,
        itemStructs_eq modules item, itemsStructs_eq modules rest]

end

/-! ## The struct that is looked up -/

theorem answersTo_within_nil (name : String) (module : Word) (isTestOnly : Bool)
    (placed : PlacedStruct) : (placed.within module isTestOnly).answersTo [] name = false := by
  simp [PlacedStruct.answersTo, PlacedStruct.modulePath, PlacedStruct.within]

theorem answersTo_within_cons (name outer : String) (inner : List String) (module : Word)
    (isTestOnly : Bool) (placed : PlacedStruct) :
    (placed.within module isTestOnly).answersTo (outer :: inner) name =
      (decide (module.plain = outer) && placed.answersTo inner name) := by
  have hiff : (placed.within module isTestOnly).modulePath = outer :: inner ↔
      module.plain = outer ∧ placed.modulePath = inner := List.cons_eq_cons
  rw [PlacedStruct.answersTo, PlacedStruct.answersTo, decide_eq_decide.2 hiff, Bool.decide_and,
    Bool.and_assoc]
  rfl

theorem findStruct?_cons (name : String) (path : List String) (item : Item) (rest : List Item) :
    findStruct? name path (item :: rest) =
      (findStruct? name path [item]).or (findStruct? name path rest) := by
  cases path <;> simp only [findStruct?, List.findSome?_cons, List.findSome?_nil] <;>
    split <;> simp_all

mutual

/-- A look-up takes the first struct of an item that fits. -/
theorem findStruct?_singleton_eq (name : String) (path : List String) (item : Item) :
    findStruct? name path [item] =
      ((placedIn item).find? (·.answersTo path name)).map (·.item) := by
  cases item with
  | struct item =>
      cases path with
      | nil =>
          by_cases h : item.name.text = name <;>
            simp [findStruct?, placedIn, PlacedStruct.answersTo, PlacedStruct.modulePath, h]
      | cons outer inner =>
          simp [findStruct?, placedIn, PlacedStruct.answersTo, PlacedStruct.modulePath]
  | module module =>
      obtain ⟨other, isTestOnly, content⟩ := module
      cases content with
      | none => cases path <;> simp [findStruct?, placedIn]
      | some items =>
          cases path with
          | nil =>
              -- what is inside a module has that module on its way
              have hnone : ((placedStructs items).map (·.within other isTestOnly)).find?
                  (·.answersTo [] name) = none := by
                rw [List.find?_eq_none]
                intro placed hplaced
                obtain ⟨inside, -, rfl⟩ := List.mem_map.1 hplaced
                simp [answersTo_within_nil]
              rw [placedIn, hnone]
              rfl
          | cons outer inner =>
              have hitems := findStruct?_eq name inner items
              rw [placedIn, List.find?_map, Option.map_map]
              simp only [Function.comp_def, answersTo_within_cons, findStruct?,
                List.findSome?_cons, List.findSome?_nil]
              by_cases h : other.plain = outer
              · simp only [h, if_true, decide_true, Bool.true_and, hitems, PlacedStruct.within]
                cases (placedStructs items).find? (·.answersTo inner name) <;> rfl
              · have hnone : (placedStructs items).find? (fun _ => false) = none :=
                  List.find?_eq_none.2 (by simp)
                simp [h, hnone]
  | other => cases path <;> simp [findStruct?, placedIn]

/-- A look-up takes the first struct of several items that fits. -/
theorem findStruct?_eq (name : String) (path : List String) (items : List Item) :
    findStruct? name path items =
      ((placedStructs items).find? (·.answersTo path name)).map (·.item) := by
  cases items with
  | nil => cases path <;> simp [findStruct?, placedStructs]
  | cons item rest =>
      rw [findStruct?_cons, placedStructs, List.find?_append,
        findStruct?_singleton_eq name path item, findStruct?_eq name path rest]
      cases (placedIn item).find? (·.answersTo path name) <;> rfl

end

end StructMatch
