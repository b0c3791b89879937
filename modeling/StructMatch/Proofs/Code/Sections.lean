import StructMatch.Code.Layout
import StructMatch.Proofs.Layout.Sheet

/-!
# The sections of a matcher file

A file is laid out section by section, `fileDoc_eq`, and so are the members of each item: an item
with a body has each of its members on lines of its own, which depend on the others in nothing,
`layOutAll_itemWithBody`.  So the text of a file has that of each method in it, `render_fileDoc`.
-/

namespace StructMatch.Code

open Layout Source

/-! ## Items with a body -/

/-- A member of an item on lines of its own. -/
def memberText (indent : Int) (member : List Doc) : String :=
  (layOutAll codePage .together indent 0 member (freshLine codePage indent)).text

/-- The members of an item, each after a line break. -/
def membersText (indent : Int) : List (List Doc) → String
  | [] => ""
  | member :: rest => "\n" ++ memberText indent member ++ membersText indent rest

/-- The lines of a body. -/
def bodyLines (members : List (List Doc)) : List Doc :=
  members.flatMap (hardLine :: ·) ++ [closingLine]

theorem flatten_intersperse_hardLine (member : List Doc) (rest : List (List Doc)) :
    hardLine :: ((member :: rest).intersperse [hardLine]).flatten =
      (member :: rest).flatMap (hardLine :: ·) := by
  induction rest generalizing member with
  | nil => simp
  | cons next rest ih =>
      rw [List.intersperse_cons_cons, List.flatten_cons, List.flatten_cons, List.flatMap_cons,
        List.singleton_append, ih]
      simp

theorem itemWithBody_eq (head : List Doc) {members : List (List Doc)} (h : members ≠ []) :
    itemWithBody head members =
      [.group level true (head ++ [Doc.text "\x7b"] ++ bodyLines members), .text "\x7d"] := by
  obtain ⟨member, rest, rfl⟩ := List.exists_cons_of_ne_nil h
  rw [bodyLines, ← flatten_intersperse_hardLine]
  rfl

theorem widthToLineEnd_bodyLines (further : Nat) (members : List (List Doc)) :
    widthToLineEnd further (bodyLines members) = 0 := by
  cases members <;> rfl

theorem unbounded_le_widthAll_bodyLines (members : List (List Doc)) :
    unbounded ≤ widthAll (bodyLines members) := by
  rw [bodyLines, widthAll_append]
  exact Nat.le_add_left _ _

theorem layOutAll_hardLine (indent : Int) (further : Nat) (docs : List Doc) (sheet : Sheet) :
    layOutAll codePage .together indent further (hardLine :: docs) sheet =
      (layOutAll codePage .together indent further docs (freshLine codePage indent)).below
        (sheet.text ++ "\n") := by
  rw [hardLine, layOutAll_line_together rfl rfl rfl, Int.add_zero]

theorem layOutAll_closingLine (indent : Int) (further : Nat) (docs : List Doc) (sheet : Sheet) :
    layOutAll codePage .together indent further (closingLine :: docs) sheet =
      (layOutAll codePage .together indent further docs (freshLine codePage (indent - level))).below
        (sheet.text ++ "\n") := by
  rw [closingLine, layOutAll_line_together rfl rfl rfl, ← Int.sub_eq_add_neg]

/-- The lines of a body are laid out independently of one another. -/
theorem layOutAll_bodyLines (indent : Int) (further : Nat) (members : List (List Doc))
    (sheet : Sheet) :
    layOutAll codePage .together indent further (bodyLines members) sheet =
      (freshLine codePage (indent - level)).below
        (sheet.text ++ membersText indent members ++ "\n") := by
  induction members generalizing sheet with
  | nil =>
      rw [bodyLines, List.flatMap_nil, List.nil_append, layOutAll_closingLine, layOutAll,
        membersText, String.append_empty]
  | cons member rest ih =>
      have hsplit : bodyLines (member :: rest) = hardLine :: (member ++ bodyLines rest) := by
        simp [bodyLines]
      rw [hsplit, layOutAll_hardLine, layOutAll_append, widthToLineEnd_bodyLines, ih,
        Sheet.below_below]
      simp only [membersText, memberText, String.append_assoc]

/-- An item is laid out with its head on the line where it begins, if there are members, and with
each of them on lines of its own. -/
theorem layOutAll_itemWithBody (mode : Mode) (indent : Int) (further : Nat) (head : List Doc)
    {members : List (List Doc)} (h : members ≠ []) {sheet : Sheet}
    (hroom : sheet.room < unbounded) :
    layOutAll codePage mode indent further (itemWithBody head members) sheet =
      ((freshLine codePage indent).write "\x7d").below
        ((layOutAll codePage .together (indent + level) 0 (head ++ [Doc.text "\x7b"]) sheet).text ++
          membersText (indent + level) members ++ "\n") := by
  have hwide : sheet.room < ((widthAll (head ++ [Doc.text "\x7b"] ++ bodyLines members) +
      widthToLineEnd further [.text "\x7d"] : Nat) : Int) := by
    have := unbounded_le_widthAll_bodyLines members
    rw [widthAll_append]
    omega
  rw [itemWithBody_eq head h, layOutAll, layOut_group_of_lt hwide, if_pos rfl, layOutAll_append,
    widthToLineEnd_bodyLines, layOutAll_bodyLines, layOutAll, Doc.layOut, layOutAll,
    Sheet.write_below, Int.add_sub_cancel]

/-! ## The method for a property -/

section Method

variable (spec : MatcherSpec) (runtime : SourcePath) (method : PropertyMethod)

/-- The closure that reads a property.  Its body is put in curly brackets where it is broken. -/
def readerDocs (property : String) : List Doc :=
  [.group level true [.text "|", softLine, .text "item|", .line { offset := -level, blanks := 1 }],
    .line { mayEnd := false },
    .group level true
      ([Doc.line { before := "\x7b" }] ++
        ([Doc.text "&"] ++ fieldDocs "item" (fieldWord property)) ++
        [Doc.line { offset := -level, after := "\x7d" }])]

/-- The call by which a method registers its property. -/
def registrationDocs : List Doc :=
  [.group level true
      [.group (-level) true [.text "self"], .text ("." ++ spec.registryField.name), softLine,
        .text ".with", .group 0 true (.text "(" :: arguments
          [[.text (Text.literal method.property)], readerDocs method.property,
            [.text method.parameter]] ++ [Doc.text ")"])],
    .text ";"]

/-- What the type parameter of a method is bound by. -/
def conditionDocs : List Doc :=
  let bound := List.flatten
    [[.text " "], runtimeType runtime "Matcher", [.text "<"],
      arguments [Doc.text "dyn " :: runtimeType runtime "PropertyValue"], [.text ">"],
      [spaceLine, .text "+ 'static"]]
  [closingLine, .text "where", hardLine, .text "M:", .group level false bound, .text ",",
    closingLine]

/-- A method is made of its head, the bounds of its type parameter, and its body. -/
theorem propertyMethodDocs_eq : propertyMethodDocs spec runtime method = itemWithBody
    (functionHead ("pub fn " ++ method.name) ["M"]
      [[.text "mut self"], [.text (method.parameter ++ ": M")]] (some [.text "Self"]) ++
        conditionDocs runtime)
    [statementLine (registrationDocs spec method), statementLine [.text "self"]] := by
  simp [propertyMethodDocs, registrationDocs, readerDocs, conditionDocs]

end Method

/-! ## The sections -/

section File

variable (spec : MatcherSpec) (runtime : SourcePath)

/-- The lints that are allowed. -/
def lintDocs : List Doc :=
  [.text ("#![allow(" ++ ", ".intercalate (allowedLints spec.naming) ++ ")]")]

/-- The import of the type. -/
def useDocs : List Doc := [.text ("use super::" ++ spec.target.name ++ ";")]

/-- A comment that documents the next item. -/
def commentDocs (comment : String) : List Doc := [.text ("///" ++ comment)]

/-- The struct with the registry in it. -/
def structDocs : List Doc :=
  itemWithBody [.text ("pub struct " ++ spec.className ++ " ")]
    [[Doc.text (spec.registryField.name ++ ": ")] ++ pathDocs false (runtime.extend
      [typedSegment "BeanPropertyMatcher" spec.registryField.target]) ++ [Doc.text ","]]

/-- The constructor and the methods for properties. -/
def ownMethodsDocs : List Doc :=
  itemWithBody (implementationHead none spec.className)
    (constructorDocs spec runtime :: spec.propertyMethods.map (propertyMethodDocs spec runtime))

/-- The methods of the matching protocol. -/
def protocolDocs : List Doc :=
  itemWithBody (implementationHead (some (pathDocs false (runtime.extend
      [typedSegment "TypeSafeMatcher" spec.target.name]))) spec.className)
    (spec.protocolMethods.map (protocolMethodDocs spec runtime))

/-- The constants for the provenance. -/
def provenanceDocs : List Doc :=
  itemWithBody (implementationHead (some (runtimeType runtime "GeneratedMatcher")) spec.className)
    [textConstantDocs "GENERATED_BY" spec.provenance.generatedBy,
      textConstantDocs "BASED_ON" spec.provenance.basedOn]

/-- The function that makes a matcher. -/
def factoryDocs : List Doc :=
  itemWithBody
    (functionHead ("pub fn " ++ spec.factory.name) [] [] (some [.text spec.factory.returns]) ++
      [Doc.text " "])
    [statementLine [.text (spec.factory.returns ++ "::" ++ spec.constructorName ++ "()")]]

/-- The sections before the own methods of a matcher. -/
def sectionsBefore : List Doc :=
  lintDocs spec ++ spaceLine :: (useDocs spec ++ hardLine ::
    (commentDocs (structComment spec) ++ hardLine :: structDocs spec runtime))

/-- The sections after the own methods of a matcher. -/
def sectionsAfter : List Doc :=
  protocolDocs spec runtime ++ hardLine :: (provenanceDocs spec runtime ++ hardLine ::
    (commentDocs (factoryComment spec) ++ hardLine :: (factoryDocs spec ++ [hardLine])))

/-- A file is made of its sections. -/
theorem fileDoc_eq : fileDoc spec runtime = .group 0 true
    (sectionsBefore spec runtime ++ hardLine :: (ownMethodsDocs spec runtime ++ hardLine ::
      sectionsAfter spec runtime)) := by
  simp only [fileDoc, sectionsBefore, sectionsAfter, lintDocs, useDocs, commentDocs, structDocs,
    ownMethodsDocs, protocolDocs, provenanceDocs, factoryDocs, List.flatMap_cons,
    List.flatMap_nil, List.append_assoc, List.cons_append, List.nil_append, List.append_nil]

/-- The lines between the sections of a file are always broken. -/
theorem render_fileDoc_eq : (fileDoc spec runtime).render codePage =
    (layOutAll codePage .together 0 0 (sectionsBefore spec runtime ++ hardLine ::
      (ownMethodsDocs spec runtime ++ hardLine :: sectionsAfter spec runtime))
      (freshLine codePage 0)).text := by
  have hfresh : Sheet.empty codePage = freshLine codePage 0 := rfl
  have hroom : (freshLine codePage 0).room = 89 := rfl
  have hwide : (freshLine codePage 0).room <
      ((widthAll (sectionsBefore spec runtime ++ hardLine :: (ownMethodsDocs spec runtime ++
        hardLine :: sectionsAfter spec runtime)) + 0 : Nat) : Int) := by
    have hbreak : hardLine.width = 65535 := rfl
    rw [widthAll_append, widthAll]
    omega
  rw [Doc.render, fileDoc_eq, hfresh, layOut_group_of_lt hwide, if_pos rfl, Int.add_zero]

/-- The text of a file before its methods for properties. -/
def textBefore : String :=
  let fresh := freshLine codePage 0
  (layOutAll codePage .together 0 0 (sectionsBefore spec runtime) fresh).text ++ "\n" ++
    (layOutAll codePage .together level 0
      (implementationHead none spec.className ++ [Doc.text "\x7b"]) fresh).text ++ "\n" ++
    memberText level (constructorDocs spec runtime)

/-- The text of a file after its methods for properties. -/
def textAfter : String :=
  "\n\x7d\n" ++ (layOutAll codePage .together 0 0 (sectionsAfter spec runtime)
    (freshLine codePage 0)).text

/-- The text of a file has that of each of its methods in their order. -/
theorem render_fileDoc : (fileDoc spec runtime).render codePage = textBefore spec runtime ++
    membersText level (spec.propertyMethods.map (propertyMethodDocs spec runtime)) ++
    textAfter spec runtime := by
  have hroom : (freshLine codePage 0).room < unbounded := by decide
  have hnothing : (freshLine codePage 0).text = "" ∧
      String.ofList (List.replicate (freshLine codePage 0).pending ' ') = "" := ⟨rfl, rfl⟩
  have hline (docs : List Doc) : widthToLineEnd 0 (hardLine :: docs) = 0 := rfl
  have hclose : "\n\x7d\n" = "\n" ++ ("\x7d" ++ "\n") := rfl
  rw [render_fileDoc_eq, layOutAll_append, layOutAll_hardLine, layOutAll_append, hline, hline,
    ownMethodsDocs, layOutAll_itemWithBody _ _ _ _ (by simp) hroom, layOutAll_hardLine]
  simp only [Sheet.text_below, membersText, String.append_assoc, Sheet.write, Int.zero_add,
    hnothing.1, hnothing.2, String.empty_append, textBefore, textAfter, hclose]

end File

end StructMatch.Code
