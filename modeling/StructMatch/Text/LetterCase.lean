import StructMatch.Text.LetterCase.Table

/-!
# Letter case

A letter is upper case or lower case by the Unicode properties of those names.  Capitalising or
lowering one character gives a short text, since some letters have a form of two or three
characters, such as `ß`, whose capital form is `SS`.  Case never depends on the neighbours of a
character.
-/

namespace StructMatch.Text

open LetterCase

/-- Whether the character is an upper-case letter. -/
def isUpper (c : Char) : Bool :=
  if c.toNat < 128 then c.isUpper else inRuns upperRuns c

/-- Whether the character is a lower-case letter. -/
def isLower (c : Char) : Bool :=
  if c.toNat < 128 then c.isLower else inRuns lowerRuns c

/-- The form of a character above ASCII: a listed long form, else the displacement of its run. -/
def mapped (long : List (Nat × List Nat)) (runs : List (CodeRun × Int)) (c : Char) : List Char :=
  match long.lookup c.toNat with
  | some forms => forms.map Char.ofNat
  | none =>
    match runs.find? (·.1.covers c.toNat) with
    | some (_, shift) => [Char.ofNat ((c.toNat : Int) + shift).toNat]
    | none => [c]

/-- The capital form of a character. -/
def toUpper (c : Char) : List Char :=
  if c.toNat < 128 then [c.toUpper] else mapped longUpper toUpperRuns c

/-- The small form of a character. -/
def toLower (c : Char) : List Char :=
  if c.toNat < 128 then [c.toLower] else mapped longLower toLowerRuns c

end StructMatch.Text
