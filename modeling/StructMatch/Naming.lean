import StructMatch.Text.LetterCase

/-!
# Naming styles

The names of generated methods come in two styles: words in small letters joined by underscores
(`with_simple_prop`, `is_simple_pojo`), or words joined by capitals (`withSimpleProp`,
`isSimplePojo`).

Type names are written with capitals, so the first style has to find their words.  A capital begins
a word after a small letter or a digit, and also after another capital when a small letter follows
it, so that an acronym stays together: `HTTPRequest` has the words `http` and `request`.
-/

namespace StructMatch

open Text

/-- How generated methods are spelled. -/
inductive Naming where
  | snake
  | camel
deriving DecidableEq

/-- The name with its first character in its capital form. -/
def capitalize (name : String) : String :=
  match name.toList with
  | [] => ""
  | c :: cs => String.ofList (toUpper c ++ cs)

/-- Whether a capital begins a word between its two neighbours. -/
def beginsWord (before? next? : Option Char) : Bool :=
  match before? with
  | none => false
  | some p =>
    if p = '_' then false
    else if isLower p || p.isDigit then true
    else isUpper p && next?.any isLower

/-- The rest of a name in snake case, after the character `before?`. -/
def snakeFrom (before? : Option Char) : List Char → List Char
  | [] => []
  | c :: cs =>
    (if isUpper c then
      if beginsWord before? cs.head? then '_' :: toLower c else toLower c
    else [c]) ++ snakeFrom (some c) cs

/-- A name in small letters, with an underscore before each further word. -/
def snakeCase (name : String) : String := String.ofList (snakeFrom none name.toList)

namespace Naming

/-- The name of a style. -/
def text : Naming → String
  | snake => "snake"
  | camel => "camel"

/-- The style of a name. -/
def ofText? (name : String) : Option Naming :=
  if name = "snake" then some snake else if name = "camel" then some camel else none

/-- The name of the fluent method for a property. -/
def propertyMethod (naming : Naming) (property : String) : String :=
  match naming with
  | snake => "with_" ++ property
  | camel => "with" ++ capitalize property

/-- The name of the factory for the matcher of a type. -/
def factory (naming : Naming) (typeName : String) : String :=
  match naming with
  | snake => "is_" ++ snakeCase typeName
  | camel => "is" ++ typeName

end Naming

end StructMatch
