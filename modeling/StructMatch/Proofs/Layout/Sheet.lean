import Mathlib.Data.String.Basic
import StructMatch.Layout.Doc

/-!
# Laying out one part after another

What is written on a sheet does not depend on the text above, `layOutAll_below`, and documents after
one another are laid out one after another, `layOutAll_append`.  So a line break that is sure to be
one cuts a layout in two, `layOutAll_line_together`: what comes after it begins on a fresh line.  A
character that stands in no text of the documents is never written, `notMem_layOutAll`.
-/

namespace StructMatch.Layout

variable {page : Page} {mode : Mode} {indent : Int} {further : Nat} {docs more : List Doc}
  {sheet : Sheet}

/-! ## The text above -/

namespace Sheet

/-- The sheet with a text above all that is on it. -/
def below (text : String) (sheet : Sheet) : Sheet := { sheet with text := text ++ sheet.text }

@[simp] theorem text_below (text : String) (sheet : Sheet) :
    (sheet.below text).text = text ++ sheet.text := rfl

@[simp] theorem room_below (text : String) (sheet : Sheet) :
    (sheet.below text).room = sheet.room := rfl

@[simp] theorem pending_below (text : String) (sheet : Sheet) :
    (sheet.below text).pending = sheet.pending := rfl

theorem below_below (above text : String) (sheet : Sheet) :
    (sheet.below text).below above = sheet.below (above ++ text) := by
  simp [below, String.append_assoc]

/-- A sheet is a fresh one below the text on it. -/
theorem eq_below (text : String) (room : Int) (pending : Nat) :
    (⟨text, room, pending⟩ : Sheet) = (⟨"", room, pending⟩ : Sheet).below text := by
  simp [below]

theorem write_below (text above : String) (sheet : Sheet) :
    (sheet.below above).write text = (sheet.write text).below above := by
  simp [below, write, String.append_assoc]

theorem skip_below (above : String) (blanks : Nat) (sheet : Sheet) :
    (sheet.below above).skip blanks = (sheet.skip blanks).below above := rfl

theorem writeMark_below (mark above : String) (sheet : Sheet) :
    (sheet.below above).writeMark mark = (sheet.writeMark mark).below above := by
  unfold writeMark
  split
  · rfl
  · exact write_below mark above sheet

theorem newLine_below (above : String) (sheet : Sheet) (indent : Int) :
    newLine page (sheet.below above) indent = (newLine page sheet indent).below above := by
  simp [below, newLine, String.append_assoc]

theorem passLine_below (above : String) (sheet : Sheet) (mode : Mode) (indent : Int)
    (place : LineEnd) (needed : Nat) :
    (sheet.below above).passLine page mode indent place needed =
      (sheet.passLine page mode indent place needed).below above := by
  unfold passLine
  dsimp only
  rw [skip_below, writeMark_below, newLine_below, writeMark_below]
  exact (apply_ite (below above) _ _ _).symm

end Sheet

mutual

theorem layOut_below (above : String) (doc : Doc) (mode : Mode) (indent : Int) (further : Nat)
    (sheet : Sheet) : doc.layOut page mode indent further (sheet.below above) =
      (doc.layOut page mode indent further sheet).below above := by
  cases doc with
  | text text => exact sheet.write_below text above
  | wide => exact sheet.write_below "" above
  | line place => exact sheet.passLine_below above mode indent place further
  | group inner together content =>
      unfold Doc.layOut
      rw [layOutAll_below above content, layOutAll_below above content]
      exact (apply_ite (Sheet.below above) _ _ _).symm

/-- What is written does not depend on the text above. -/
theorem layOutAll_below (above : String) (docs : List Doc) (mode : Mode) (indent : Int)
    (further : Nat) (sheet : Sheet) : layOutAll page mode indent further docs (sheet.below above) =
      (layOutAll page mode indent further docs sheet).below above := by
  cases docs with
  | nil => rfl
  | cons doc rest =>
      unfold layOutAll
      rw [layOut_below above doc, layOutAll_below above rest]

end

/-! ## One part after another -/

@[simp] theorem widthAll_append (docs more : List Doc) :
    widthAll (docs ++ more) = widthAll docs + widthAll more := by
  induction docs with
  | nil => simp [widthAll]
  | cons doc docs ih => rw [List.cons_append, widthAll, widthAll, ih, Nat.add_assoc]

theorem widthToLineEnd_append (further : Nat) (docs more : List Doc) :
    widthToLineEnd further (docs ++ more) =
      widthToLineEnd (widthToLineEnd further more) docs := by
  induction docs with
  | nil => rfl
  | cons doc docs ih => cases doc <;> simp [widthToLineEnd, ih]

/-- Documents after one another are laid out one after another. -/
theorem layOutAll_append (mode : Mode) (indent : Int) (further : Nat) (docs more : List Doc)
    (sheet : Sheet) : layOutAll page mode indent further (docs ++ more) sheet =
      layOutAll page mode indent further more
        (layOutAll page mode indent (widthToLineEnd further more) docs sheet) := by
  induction docs generalizing sheet with
  | nil => rfl
  | cons doc docs ih =>
      rw [List.cons_append, layOutAll, layOutAll, ih, widthToLineEnd_append]

/-! ## Lines that break -/

/-- The beginning of a line with the given indentation. -/
def freshLine (page : Page) (indent : Int) : Sheet :=
  ⟨"", max (page.width - indent) page.least, indent.toNat⟩

/-- In a group whose places become line breaks together, a plain place begins a fresh line. -/
theorem layOutAll_line_together {place : LineEnd} (hmay : place.mayEnd = true)
    (hbefore : place.before = "") (hafter : place.after = "") (docs : List Doc) (sheet : Sheet) :
    layOutAll page .together indent further (.line place :: docs) sheet =
      (layOutAll page .together indent further docs (freshLine page (indent + place.offset))).below
        (sheet.text ++ "\n") := by
  have hpass (needed : Nat) : sheet.passLine page .together indent place needed =
      (freshLine page (indent + place.offset)).below (sheet.text ++ "\n") := by
    simp [Sheet.passLine, Sheet.writeMark, Sheet.newLine, Sheet.below, freshLine, hmay, hbefore,
      hafter]
  rw [layOutAll, Doc.layOut, hpass, layOutAll_below]

/-- A group that there is no room for is broken into lines. -/
theorem layOut_group_of_lt {inner : Int} {together : Bool} {content : List Doc}
    (h : sheet.room < ((widthAll content + further : Nat) : Int)) :
    (Doc.group inner together content).layOut page mode indent further sheet =
      layOutAll page (if together then .together else .asNeeded) (indent + inner) further content
        sheet := by
  rw [Doc.layOut, if_neg (by omega)]

/-! ## What is never written -/

mutual

/-- Whether a character stands in no text of a document. -/
def Doc.Lacks (c : Char) : Doc → Prop
  | .text text => c ∉ text.toList
  | .wide => True
  | .line place => c ∉ place.before.toList ∧ c ∉ place.after.toList
  | .group _ _ content => AllLack c content

/-- Whether a character stands in no text of several documents. -/
def AllLack (c : Char) : List Doc → Prop
  | [] => True
  | doc :: rest => doc.Lacks c ∧ AllLack c rest

end

namespace Sheet

variable {c : Char}

theorem notMem_write {text : String} (hblank : c ≠ ' ') (hsheet : c ∉ sheet.text.toList)
    (htext : c ∉ text.toList) : c ∉ (sheet.write text).text.toList := by
  simp [write, hsheet, htext, hblank]

theorem notMem_writeMark {mark : String} (hblank : c ≠ ' ') (hsheet : c ∉ sheet.text.toList)
    (hmark : c ∉ mark.toList) : c ∉ (sheet.writeMark mark).text.toList := by
  unfold writeMark
  split
  · exact hsheet
  · exact notMem_write hblank hsheet hmark

theorem notMem_passLine {place : LineEnd} {needed : Nat} (hblank : c ≠ ' ') (hline : c ≠ '\n')
    (hsheet : c ∉ sheet.text.toList) (hplace : (Doc.line place).Lacks c) :
    c ∉ (sheet.passLine page mode indent place needed).text.toList := by
  obtain ⟨hbefore, hafter⟩ := hplace
  unfold passLine
  dsimp only
  split
  · exact hsheet
  · refine notMem_writeMark hblank ?_ hafter
    have hmark := notMem_writeMark hblank hsheet hbefore
    simp [newLine, hmark, hline]

end Sheet

mutual

theorem notMem_layOut {c : Char} (hblank : c ≠ ' ') (hline : c ≠ '\n') (doc : Doc) (mode : Mode)
    (indent : Int) (further : Nat) (sheet : Sheet) (hdoc : doc.Lacks c)
    (hsheet : c ∉ sheet.text.toList) :
    c ∉ (doc.layOut page mode indent further sheet).text.toList := by
  cases doc with
  | text text => exact Sheet.notMem_write hblank hsheet hdoc
  | wide => exact Sheet.notMem_write hblank hsheet (by simp)
  | line place => exact Sheet.notMem_passLine hblank hline hsheet hdoc
  | group inner together content =>
      unfold Doc.layOut
      split
      · exact notMem_layOutAll hblank hline content _ _ _ _ hdoc hsheet
      · exact notMem_layOutAll hblank hline content _ _ _ _ hdoc hsheet

/-- A character that is on the sheet afterwards stood there before, or in one of the documents. -/
theorem notMem_layOutAll {c : Char} (hblank : c ≠ ' ') (hline : c ≠ '\n') (docs : List Doc)
    (mode : Mode) (indent : Int) (further : Nat) (sheet : Sheet) (hdocs : AllLack c docs)
    (hsheet : c ∉ sheet.text.toList) :
    c ∉ (layOutAll page mode indent further docs sheet).text.toList := by
  cases docs with
  | nil => exact hsheet
  | cons doc rest =>
      unfold layOutAll
      exact notMem_layOutAll hblank hline rest _ _ _ _ hdocs.2
        (notMem_layOut hblank hline doc _ _ _ _ hdocs.1 hsheet)

end

/-- Whether the documents have the given text, with nothing before it in which the character
stands. -/
inductive LeadsTo (c : Char) (text : String) : List Doc → Prop
  | here (rest : List Doc) : LeadsTo c text (.text text :: rest)
  | past {doc : Doc} {rest : List Doc} (hdoc : doc.Lacks c) (h : LeadsTo c text rest) :
      LeadsTo c text (doc :: rest)
  | inside {inner : Int} {together : Bool} {content : List Doc} (rest : List Doc)
      (h : LeadsTo c text content) : LeadsTo c text (.group inner together content :: rest)

theorem LeadsTo.append {c : Char} {text : String} (h : LeadsTo c text docs) (more : List Doc) :
    LeadsTo c text (docs ++ more) := by
  induction h with
  | here rest => exact .here _
  | past hdoc _ ih => exact .past hdoc ih
  | inside rest h _ => exact .inside _ h

/-- Laying out only adds to the text. -/
theorem exists_text_layOutAll (page : Page) (docs : List Doc) (mode : Mode) (indent : Int)
    (further : Nat) (sheet : Sheet) : ∃ added,
      (layOutAll page mode indent further docs sheet).text = sheet.text ++ added := by
  obtain ⟨text, room, pending⟩ := sheet
  refine ⟨(layOutAll page mode indent further docs ⟨"", room, pending⟩).text, ?_⟩
  rw [Sheet.eq_below text, layOutAll_below]
  simp

/-- What documents lead to is written, with nothing before it in which the character stands. -/
theorem LeadsTo.exists_text {c : Char} {text : String} (h : LeadsTo c text docs)
    (hblank : c ≠ ' ') (hline : c ≠ '\n') (hsheet : c ∉ sheet.text.toList) :
    ∃ before after, (layOutAll page mode indent further docs sheet).text =
      before ++ text ++ after ∧ c ∉ before.toList := by
  induction h generalizing mode indent further sheet with
  | here rest =>
      obtain ⟨added, hadded⟩ := exists_text_layOutAll page rest mode indent further
        (sheet.write text)
      refine ⟨sheet.text ++ String.ofList (List.replicate sheet.pending ' '), added, ?_, ?_⟩
      · rw [layOutAll, Doc.layOut, hadded, Sheet.write]
      · simp [hsheet, hblank]
  | @past doc rest hdoc _ ih =>
      exact ih (notMem_layOut hblank hline doc _ _ _ _ hdoc hsheet)
  | @inside inner together content rest _ ih =>
      have hcontent : ∃ before after, ((Doc.group inner together content).layOut page mode indent
          (widthToLineEnd further rest) sheet).text = before ++ text ++ after ∧
            c ∉ before.toList := by
        unfold Doc.layOut
        split
        · exact ih hsheet
        · exact ih hsheet
      obtain ⟨before, after, htext, hbefore⟩ := hcontent
      obtain ⟨added, hadded⟩ := exists_text_layOutAll page rest mode indent further _
      refine ⟨before, after ++ added, ?_, hbefore⟩
      rw [layOutAll, hadded, htext, String.append_assoc]

end StructMatch.Layout
