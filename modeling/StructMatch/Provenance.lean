import StructMatch.Text.Blank

/-!
# Provenance

Every generated file begins with two comment lines that say who generated it and from which type.
Reading a file back looks only at the comment lines it begins with.  Of several lines of one form
the last one counts, and both forms must be there.
-/

namespace StructMatch

open Text

/-- Who generated a file, and from which type. -/
structure Provenance where
  generatedBy : String
  basedOn : String
deriving DecidableEq

/-- The generator's name, unless another one is chosen. -/
def defaultGeneratorName : String := "beanmatch-build"

/-- The name in a line that says who generated the file. -/
def generatorIn? (line : List Char) : Option String := do
  let rest ← afterStart? "// @generated by ".toList line
  let name ← beforeEnd? ". Do not edit by hand.".toList rest
  if name.isEmpty then none else some (String.ofList name)

/-- The path in a line that says which type the file is based on. -/
def originIn? (line : List Char) : Option String := do
  let path ← afterStart? "// based-on: ".toList line
  if path.isEmpty || path.any isBlank then none else some (String.ofList path)

/-- The comment lines that a text begins with. -/
def leadingComments (text : String) : List (List Char) :=
  (lines text.toList).takeWhile fun line => (afterStart? ['/', '/'] line).isSome

namespace Provenance

/-- The two comment lines, with an empty line after them. -/
def header (p : Provenance) : String :=
  "// @generated by " ++ p.generatedBy ++ ". Do not edit by hand.\n// based-on: " ++ p.basedOn ++
    "\n\n"

/-- The provenance that a text begins with. -/
def read? (text : String) : Option Provenance := do
  let comments := leadingComments text
  let generatedBy ← comments.reverse.findSome? generatorIn?
  let basedOn ← comments.reverse.findSome? originIn?
  some ⟨generatedBy, basedOn⟩

end Provenance

end StructMatch
