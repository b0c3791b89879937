/-!
# Laying out text on lines

A document is a text with places where a line may end, arranged in nested groups.  A group that fits
on the line is written without a break.  In one that does not fit, either every place becomes a line
break, or each place does for which the text up to the next one does not fit.

What has to fit is everything up to the next place where the line may end outside of the group or at
the same level, so that a closing bracket after a group counts as well.  Widths are counted in
bytes.
-/

namespace StructMatch.Layout

/-- A width that no line has room for. -/
def unbounded : Nat := 0xffff

/-- A place where a line may end. -/
structure LineEnd where
  /-- How much the next line is indented beyond its group. -/
  offset : Int := 0
  /-- The blanks that stand here if the line does not end. -/
  blanks : Nat := 0
  /-- What closes the line if it ends. -/
  before : String := ""
  /-- What begins the next line if the line ends. -/
  after : String := ""
  /-- Whether the line may end here at all.  A place where it may not still ends what has to fit. -/
  mayEnd : Bool := true
deriving DecidableEq

/-- A text with places where lines may end. -/
inductive Doc where
  | text (text : String)
  /-- Nothing, but with a width that no line has room for. -/
  | wide
  | line (place : LineEnd)
  /-- A group with the indentation of its lines, in which all places become line breaks together or
  each as needed. -/
  | group (indent : Int) (together : Bool) (content : List Doc)

mutual

/-- The width of a document without line breaks. -/
def Doc.width : Doc → Nat
  | .text text => text.utf8ByteSize
  | .wide => unbounded
  | .line place => place.blanks
  | .group _ _ content => widthAll content

/-- The width of several documents without line breaks. -/
def widthAll : List Doc → Nat
  | [] => 0
  | doc :: rest => doc.width + widthAll rest

end

mutual

/-- A document without line breaks. -/
def Doc.flat : Doc → String
  | .text text => text
  | .wide => ""
  | .line place => String.ofList (List.replicate place.blanks ' ')
  | .group _ _ content => flatAll content

/-- Several documents without line breaks. -/
def flatAll : List Doc → String
  | [] => ""
  | doc :: rest => doc.flat ++ flatAll rest

end

/-- The width up to the next place at this level where the line may end, or to the end of the list
and the given width further. -/
def widthToLineEnd (further : Nat) : List Doc → Nat
  | [] => further
  | .line _ :: _ => 0
  | doc :: rest => doc.width + widthToLineEnd further rest

/-- How the group around a place is written. -/
inductive Mode where
  | flat
  | together
  | asNeeded
deriving DecidableEq

/-- The text written so far, and the room on its last line. -/
structure Sheet where
  text : String
  room : Int
  /-- Blanks that are written only when something follows them on the line. -/
  pending : Nat

/-- The measures of a page. -/
structure Page where
  /-- The width of a line. -/
  width : Nat
  /-- The width that even a deeply indented line has. -/
  least : Nat

namespace Sheet

/-- The empty sheet. -/
def empty (page : Page) : Sheet := ⟨"", page.width, 0⟩

/-- Writes a text on the line. -/
def write (sheet : Sheet) (text : String) : Sheet :=
  ⟨sheet.text ++ String.ofList (List.replicate sheet.pending ' ') ++ text,
    sheet.room - text.utf8ByteSize, 0⟩

/-- Leaves room for blanks on the line. -/
def skip (sheet : Sheet) (blanks : Nat) : Sheet :=
  ⟨sheet.text, sheet.room - blanks, sheet.pending + blanks⟩

/-- Ends the line and indents the next one. -/
def newLine (page : Page) (sheet : Sheet) (indent : Int) : Sheet :=
  ⟨sheet.text ++ "\n", max (page.width - indent) page.least, indent.toNat⟩

/-- Writes a text on the line, unless it is empty. -/
def writeMark (sheet : Sheet) (mark : String) : Sheet :=
  if mark.isEmpty then sheet else sheet.write mark

/-- Passes a place where the line may end, given the width up to the next such place. -/
def passLine (page : Page) (sheet : Sheet) (mode : Mode) (indent : Int) (place : LineEnd)
    (needed : Nat) : Sheet :=
  let stays := !place.mayEnd || mode = .flat ||
    (mode = .asNeeded && ((place.blanks + needed : Nat) : Int) ≤ sheet.room)
  if stays then sheet.skip place.blanks
  else
    (newLine page (sheet.writeMark place.before) (indent + place.offset)).writeMark place.after

end Sheet

mutual

/-- Writes a document inside a group.  The last argument but one is the width after the document up
to the next place where the line may end. -/
def Doc.layOut (page : Page) (mode : Mode) (indent : Int) (further : Nat) (doc : Doc)
    (sheet : Sheet) : Sheet :=
  match doc with
  | .text text => sheet.write text
  | .wide => sheet.write ""
  | .line place => sheet.passLine page mode indent place further
  | .group inner together content =>
    if ((widthAll content + further : Nat) : Int) ≤ sheet.room then
      layOutAll page .flat indent further content sheet
    else
      layOutAll page (if together then .together else .asNeeded) (indent + inner) further content
        sheet

/-- Writes several documents inside a group. -/
def layOutAll (page : Page) (mode : Mode) (indent : Int) (further : Nat) (docs : List Doc)
    (sheet : Sheet) : Sheet :=
  match docs with
  | [] => sheet
  | doc :: rest =>
    layOutAll page mode indent further rest
      (doc.layOut page mode indent (widthToLineEnd further rest) sheet)

end

/-- The text of a document on a page. -/
def Doc.render (page : Page) (doc : Doc) : String :=
  (doc.layOut page .together 0 0 (Sheet.empty page)).text

end StructMatch.Layout
