import StructMatch.Layout.Doc

/-!
# The lines of code

The page that code is laid out on, and the places at which its lines end.  Lists in brackets are
written on one line if they fit, and else with one item on each line and a comma after the last.
The bodies of items are always broken into lines.
-/

namespace StructMatch.Code

open Layout

/-- Lines of code have 89 columns, and at least 60 are left to an indented line. -/
def codePage : Page := ⟨89, 60⟩

/-- The indentation of one level. -/
def level : Int := 4

/-- A line break. -/
def hardLine : Doc := .line { blanks := unbounded }

/-- A line break after which the indentation is one level less. -/
def closingLine : Doc := .line { offset := -level, blanks := unbounded }

/-- A place where a line may end, with no blank if it does not. -/
def softLine : Doc := .line {}

/-- A place where a line may end, with a blank if it does not. -/
def spaceLine : Doc := .line { blanks := 1 }

/-- The end of a list: if its lines are broken, a comma follows the last item. -/
def listEnd : Doc := .line { offset := -level, before := "," }

/-- A list inside of brackets.  The first argument is the indentation of the items. -/
def listItems (indent : Int) (items : List (List Doc)) : List Doc :=
  match items with
  | [] => []
  | _ :: _ =>
    [.group indent true
      (softLine :: (items.intersperse [.text ",", spaceLine]).flatten ++ [listEnd])]

/-- Arguments of a call or of a type. -/
def arguments (items : List (List Doc)) : List Doc := listItems level items

/-- An item with its members in curly brackets, each on lines of its own. -/
def itemWithBody (head : List Doc) (members : List (List Doc)) : List Doc :=
  let lines :=
    match members with
    | [] => []
    | _ :: _ => hardLine :: (members.intersperse [hardLine]).flatten ++ [closingLine]
  [.group level true (head ++ [.text "\x7b"] ++ lines), .text "\x7d"]

/-- A statement. -/
def statementLine (docs : List Doc) : List Doc := [.group 0 false docs]

end StructMatch.Code
